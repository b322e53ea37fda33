import Mathlib.Data.List.Nodup
import ListField.CachedRequest
/-!
# A request sees one answer per permission question

Whatever the source of the permissions does, and whatever a request does in between, each
question reaches the source at most once, and every answer the request gives to a question is the
answer the source gave the first time it was asked, a failure read as denial. The errors a
request records never change an answer.

To see what the source was asked, it is watched through `PermissionSource.logged`, which answers
as the source does and writes each question down with its answer.

* `PermissionCache.lookup_can`, `PermissionCache.answers_prefix_can`: after a question its answer
  is the one kept for it, and the kept answers only grow at their end.
* `PermissionCache.Agrees`: over a watched source, the kept answers are the logged ones, one per
  question; every question keeps it (`Agrees.can`).
* `CachedRequest.step_permissions`: the error operations leave the permissions as they are, so
  what every question keeps of them a whole run keeps (`CachedRequest.run_keeps`), and a run
  answers as its questions alone do (`CachedRequest.run_questions`).
* `CachedRequest.answers_fixed_for_request`: the whole run.
* `CachedRequest.answers_ofGrants`: over the store's grants, which answer the same every time, the
  cache gives the answers `Request.can` reads from the grants.
-/

namespace ListField

theorem Request.can_eq_grantedBy (r : Request) (access : Access) (f : FieldId) :
    r.can access f = grantedBy (r.grants r.actor f access) := by
  cases h : r.grants r.actor f access <;> simp [Request.can, grantedBy, h]

/-- The questions a source was asked, with its answers, oldest first. -/
abbrev QuestionLog := List ((FieldId × Access) × Except StoreError Bool)

/-- The source that answers as `src` does and writes each question down with its answer. -/
def PermissionSource.logged {σ : Type} (src : PermissionSource σ) :
    PermissionSource (σ × QuestionLog) :=
  ⟨fun st a f access =>
    let (answer, next) := src.ask st.1 a f access
    (answer, (next, st.2 ++ [((f, access), answer)]))⟩

/-- Looking a key up in pairs whose second parts are mapped maps the found second part. -/
theorem lookup_map_snd {κ β γ : Type} [BEq κ] (l : List (κ × β)) (g : β → γ) (k : κ) :
    (l.map fun q => (q.1, g q.2)).lookup k = (l.lookup k).map g := by
  induction l with
  | nil => rfl
  | cons p l ih =>
    obtain ⟨k', v⟩ := p
    simp only [List.map_cons, List.lookup_cons]
    cases k == k' <;> simp [ih]

/-- A kept answer stays kept when more are kept after it. -/
theorem lookup_of_prefix {κ β : Type} [BEq κ] {l₁ l₂ : List (κ × β)} (hp : l₁ <+: l₂) {k : κ}
    {b : β} (h : l₁.lookup k = some b) : l₂.lookup k = some b := by
  obtain ⟨t, rfl⟩ := hp
  simp [List.lookup_append, h]

namespace PermissionCache

variable {σ : Type} (c : PermissionCache σ) (access : Access) (f : FieldId)

/-! ## One question -/

theorem can_of_lookup {b : Bool} (h : c.answers.lookup (f, access) = some b) :
    c.can access f = (b, c) := by
  simp [can, h]

theorem can_of_lookup_none (h : c.answers.lookup (f, access) = none) :
    c.can access f = (grantedBy (c.source.ask c.state c.actor f access).1,
      { c with state := (c.source.ask c.state c.actor f access).2,
               answers := c.answers ++
                 [((f, access), grantedBy (c.source.ask c.state c.actor f access).1)] }) := by
  simp [can, h]

@[simp] theorem actor_can : (c.can access f).2.actor = c.actor := by
  cases h : c.answers.lookup (f, access) <;> simp [can, h]

@[simp] theorem source_can : (c.can access f).2.source = c.source := by
  cases h : c.answers.lookup (f, access) <;> simp [can, h]

/-- The kept answers only grow, at their end. -/
theorem answers_prefix_can : c.answers <+: (c.can access f).2.answers := by
  cases h : c.answers.lookup (f, access) with
  | some b => simpa only [can_of_lookup c access f h] using List.prefix_refl c.answers
  | none => rw [can_of_lookup_none c access f h]; exact List.prefix_append _ _

/-- After a question, its answer is the one kept for it. -/
theorem lookup_can : (c.can access f).2.answers.lookup (f, access) = some (c.can access f).1 := by
  cases h : c.answers.lookup (f, access) with
  | some b => rw [can_of_lookup c access f h]; exact h
  | none => rw [can_of_lookup_none c access f h]; simp [List.lookup_append, h]

/-! ## Over a watched source -/

/-- The answers kept by a cache over a watched source are the logged answers, in the order they
were given, failure read as denial; and no question is kept twice. -/
structure Agrees (c : PermissionCache (σ × QuestionLog)) : Prop where
  answers_eq : c.answers = c.state.2.map fun q => (q.1, grantedBy q.2)
  nodup : (c.answers.map (·.1)).Nodup

theorem Agrees.can {src : PermissionSource σ} {c : PermissionCache (σ × QuestionLog)}
    (hc : c.Agrees) (hs : c.source = src.logged) : (c.can access f).2.Agrees := by
  cases h : c.answers.lookup (f, access) with
  | some b => rw [can_of_lookup c access f h]; exact hc
  | none =>
    -- a new question: the source logs it, and the cache keeps it, not kept before
    rw [can_of_lookup_none c access f h, hs]
    have hfresh : (f, access) ∉ c.answers.map (·.1) := by
      intro hmem
      obtain ⟨p, hp, hpk⟩ := List.mem_map.1 hmem
      have := List.lookup_eq_none_iff.1 h p hp
      simp [hpk] at this
    constructor
    · simp [PermissionSource.logged, hc.answers_eq]
    · rw [List.map_append, List.nodup_append]
      refine ⟨hc.nodup, List.nodup_singleton _, fun x hx y hy => ?_⟩
      rw [List.map_singleton, List.mem_singleton] at hy
      rintro rfl
      have hkey : x = (f, access) := hy
      exact hfresh (hkey ▸ hx)

/-! ## Over the store's grants -/

/-- A cache of actor `a` over the grants `g`, whose every kept answer is the one the grants
give. -/
structure FromGrants (g : Grants) (a : Actor) (c : PermissionCache Unit) : Prop where
  actor_eq : c.actor = a
  source_eq : c.source = .ofGrants g
  answers : ∀ p ∈ c.answers, p.2 = ({ actor := a, grants := g } : Request).can p.1.2 p.1.1

theorem FromGrants.can {g : Grants} {a : Actor} {c : PermissionCache Unit}
    (hc : c.FromGrants g a) (access : Access) (f : FieldId) : (c.can access f).2.FromGrants g a := by
  refine ⟨(actor_can c access f).trans hc.actor_eq, (source_can c access f).trans hc.source_eq, ?_⟩
  cases h : c.answers.lookup (f, access) with
  | some b => rw [can_of_lookup c access f h]; exact hc.answers
  | none =>
    -- the new answer is the grants' answer, read as `Request.can` reads it
    rw [can_of_lookup_none c access f h]
    intro p hp
    rcases List.mem_append.1 hp with hp | hp
    · exact hc.answers p hp
    · rw [List.mem_singleton.1 hp, Request.can_eq_grantedBy, hc.source_eq, hc.actor_eq]
      rfl

end PermissionCache

namespace CachedRequest

variable {σ : Type} (r : CachedRequest σ)

/-! ## One operation -/

theorem step_can (access : Access) (f : FieldId) :
    r.step (.can access f) =
      (.answer (r.permissions.can access f).1, { r with permissions := (r.permissions.can access f).2 }) :=
  rfl

theorem answer?_step_can (access : Access) (f : FieldId) :
    (r.step (.can access f)).1.answer? = some (r.permissions.can access f).1 := rfl

theorem permissions_step_can (access : Access) (f : FieldId) :
    (r.step (.can access f)).2.permissions = (r.permissions.can access f).2 := rfl

/-- The operations that are not questions leave the permissions as they are. -/
theorem step_permissions {op : RequestStep} (h : op.isQuestion = false) :
    (r.step op).2.permissions = r.permissions := by
  cases op with
  | can => cases h
  | record => rfl
  | clear => rfl
  | take => rfl

/-- What an operation answers, when it is no question. -/
theorem answer?_step {op : RequestStep} (h : op.isQuestion = false) : (r.step op).1.answer? = none := by
  cases op with
  | can => cases h
  | record => rfl
  | clear => rfl
  | take => rfl

/-! ## A run -/

/-- The kept answers only grow over a run. -/
theorem answers_prefix_run (ops : List RequestStep) :
    r.permissions.answers <+: (r.run ops).2.permissions.answers := by
  induction ops generalizing r with
  | nil => exact List.prefix_refl _
  | cons op ops ih =>
    refine List.IsPrefix.trans ?_ (ih (r.step op).2)
    cases h : op.isQuestion
    · simpa only [step_permissions r h] using List.prefix_refl r.permissions.answers
    · cases op with
      | can access f => exact PermissionCache.answers_prefix_can _ _ _
      | _ => cases h

/-- Every answer of a run to a question is the answer kept for it at the end. -/
theorem lookup_run_of_mem (ops : List RequestStep) {access : Access} {f : FieldId} {b : Bool}
    (h : (RequestStep.can access f, RequestReply.answer b) ∈ ops.zip (r.run ops).1) :
    (r.run ops).2.permissions.answers.lookup (f, access) = some b := by
  induction ops generalizing r with
  | nil => simp at h
  | cons op ops ih =>
    rw [run_cons_fst, List.zip_cons_cons, List.mem_cons] at h
    rcases h with h | h
    · -- the question was this operation: its answer is kept from here on
      obtain ⟨rfl, hb⟩ := Prod.mk.inj h
      have hb' : b = (r.permissions.can access f).1 := by simpa [step_can] using hb
      rw [run_cons_snd, hb']
      refine lookup_of_prefix (answers_prefix_run _ ops) ?_
      rw [permissions_step_can]
      exact PermissionCache.lookup_can _ _ _
    · exact ih (r.step op).2 h

/-- What every question keeps of the permissions, a whole run keeps. -/
theorem run_keeps {P : PermissionCache σ → Prop}
    (hP : ∀ c access f, P c → P (c.can access f).2) (ops : List RequestStep) (h : P r.permissions) :
    P (r.run ops).2.permissions := by
  induction ops generalizing r with
  | nil => exact h
  | cons op ops ih =>
    cases hq : op.isQuestion
    · exact ih _ (step_permissions r hq ▸ h)
    · cases op with
      | can access f => exact ih _ (hP _ access f h)
      | _ => cases hq

/-- The answers of a run and the permissions it ends with are those of its questions alone, from
the same permissions. -/
theorem run_questions (ops : List RequestStep) {r' : CachedRequest σ}
    (hp : r'.permissions = r.permissions) :
    (r.run ops).1.filterMap RequestReply.answer? =
        (r'.run (ops.filter RequestStep.isQuestion)).1.filterMap RequestReply.answer? ∧
      (r.run ops).2.permissions = (r'.run (ops.filter RequestStep.isQuestion)).2.permissions := by
  induction ops generalizing r r' with
  | nil => exact ⟨rfl, hp.symm⟩
  | cons op ops ih =>
    cases h : op.isQuestion
    · -- no question: nothing answered, the permissions stay
      rw [List.filter_cons_of_neg (by simp [h]), run_cons_fst,
        List.filterMap_cons_none (answer?_step r h), run_cons_snd]
      exact ih (r.step op).2 (hp.trans (step_permissions r h).symm)
    · cases op with
      | can access f =>
        rw [List.filter_cons_of_pos h, run_cons_fst, run_cons_fst, run_cons_snd, run_cons_snd,
          List.filterMap_cons_some (answer?_step_can r access f),
          List.filterMap_cons_some (answer?_step_can r' access f), hp]
        obtain ⟨h₁, h₂⟩ := @ih (r.step (.can access f)).2 (r'.step (.can access f)).2
          (by rw [permissions_step_can, permissions_step_can, hp])
        exact ⟨congrArg _ h₁, h₂⟩
      | _ => cases h

/-! ## Answers fixed for a request -/

/-- **Permission answers are fixed for the length of a request.** Over any source, watched
through its log, and any run of operations from a new request: each question reached the source at
most once; every answer given to a question is the source's first answer to it, failure read as
denial; and the answers are those of the run's questions alone, whatever the error operations
between them. -/
theorem answers_fixed_for_request (src : PermissionSource σ) (st : σ) (a : Actor)
    (ops : List RequestStep) :
    (((new a src.logged (st, [])).run ops).2.permissions.state.2.map (·.1)).Nodup ∧
    (∀ access f b, (RequestStep.can access f, RequestReply.answer b) ∈
        ops.zip ((new a src.logged (st, [])).run ops).1 →
      ∃ answer, (((new a src.logged (st, [])).run ops).2.permissions.state.2.lookup (f, access)) =
        some answer ∧ b = grantedBy answer) ∧
    ((new a src.logged (st, [])).run ops).1.filterMap RequestReply.answer? =
      ((new a src.logged (st, [])).run (ops.filter RequestStep.isQuestion)).1.filterMap
        RequestReply.answer? := by
  obtain ⟨⟨heq, hnodup⟩, -⟩ := run_keeps (new a src.logged (st, []))
    (P := fun c => c.Agrees ∧ c.source = src.logged)
    (fun c access f hc => ⟨hc.1.can access f hc.2, (PermissionCache.source_can c access f).trans hc.2⟩)
    ops ⟨⟨rfl, List.nodup_nil⟩, rfl⟩
  -- the log's questions are the kept ones, and an answer kept is the log's first one
  have hkeys : (((new a src.logged (st, [])).run ops).2.permissions.state.2.map (·.1)) =
      ((new a src.logged (st, [])).run ops).2.permissions.answers.map (·.1) := by
    rw [heq, List.map_map]
    rfl
  refine ⟨hkeys ▸ hnodup, fun access f b hmem => ?_, (run_questions _ ops rfl).1⟩
  have hkept := lookup_run_of_mem _ ops hmem
  rw [heq, lookup_map_snd] at hkept
  obtain ⟨answer, hfirst, hb⟩ := Option.map_eq_some_iff.1 hkept
  exact ⟨answer, hfirst, hb.symm⟩

/-- **The cache changes no answer over the store's grants.** A source that always answers with
the grants `g` gives, through the cache, the answers `Request.can` reads from the grants, which is
how the checks and the writer read them. -/
theorem answers_ofGrants (g : Grants) (a : Actor) (ops : List RequestStep) {access : Access}
    {f : FieldId} {b : Bool}
    (h : (RequestStep.can access f, RequestReply.answer b) ∈ ops.zip ((new a (.ofGrants g) ()).run ops).1) :
    b = ({ actor := a, grants := g } : Request).can access f := by
  have hkeep := run_keeps (new a (.ofGrants g) ()) (P := PermissionCache.FromGrants g a)
    (fun c access f hc => hc.can access f) ops ⟨rfl, rfl, fun _ hp => (List.not_mem_nil hp).elim⟩
  obtain ⟨l₁, l₂, hsplit, -⟩ := List.lookup_eq_some_iff.1 (lookup_run_of_mem _ ops h)
  exact hkeep.answers _ (hsplit ▸ List.mem_append_right _ List.mem_cons_self)

end CachedRequest
end ListField
