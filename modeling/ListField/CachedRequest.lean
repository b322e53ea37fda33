import ListField.Request
/-!
# Permission answers kept for the length of a request

A request asks where its permissions come from at most once per field and kind of access, and
gives the answer it got for the rest of the request. A failed question counts as "denied", and
that answer is kept as well.

The source of the answers may answer a question differently each time it is asked (it answers
from a state of its own and moves that state on), so the cache is what makes one request see one
answer per question. `PermissionCache` is that part of a request; `CachedRequest` adds the errors
the request records, which live beside the cache and never touch it.

A request runs a list of operations (`RequestStep`): permission questions, recording an error,
forgetting the errors of a field, and draining them all. `CachedRequest.run` gives one reply per
operation.

`Request` is a request whose source always answers with the store's grants: there the cache
changes no answer, and the checks and the writer read their permissions from the grants.
-/

namespace ListField

/-- Whether a permission answer grants access: a failed answer denies. -/
def grantedBy : Except StoreError Bool → Bool
  | .ok b => b
  | .error _ => false

/-- Where a request's permission answers come from. It answers from a state `σ` of its own,
which each question may move on, so a question asked twice may get two answers; an answer may
fail. -/
structure PermissionSource (σ : Type) where
  ask : σ → Actor → FieldId → Access → Except StoreError Bool × σ

/-- The source that answers with the grants `g`, the same answer every time. -/
def PermissionSource.ofGrants (g : Grants) : PermissionSource Unit :=
  ⟨fun _ a f access => (g a f access, ())⟩

/-- The permission part of a request: the actor, the source and its state, and the answers given
so far, one per field and kind of access, in the order the questions were first asked. -/
structure PermissionCache (σ : Type) where
  actor : Actor
  source : PermissionSource σ
  state : σ
  answers : List ((FieldId × Access) × Bool) := []

namespace PermissionCache

variable {σ : Type}

/-- Whether the actor has `access` on field `f`: the answer kept for the question when it was
asked before; else the source's answer, failure denying, which is kept from then on. -/
def can (c : PermissionCache σ) (access : Access) (f : FieldId) : Bool × PermissionCache σ :=
  match c.answers.lookup (f, access) with
  | some b => (b, c)
  | none =>
    let (answer, state) := c.source.ask c.state c.actor f access
    let b := grantedBy answer
    (b, { c with state, answers := c.answers ++ [((f, access), b)] })

end PermissionCache

/-- A request: its permissions, asked through the cache, and the errors recorded so far, oldest
first. -/
structure CachedRequest (σ : Type) where
  permissions : PermissionCache σ
  errors : List (FieldId × FieldError) := []

/-- One operation on a request. -/
inductive RequestStep where
  /-- Asks whether the actor has `access` on field `f`. -/
  | can (access : Access) (f : FieldId)
  /-- Records an error for field `f`. -/
  | record (f : FieldId) (e : FieldError)
  /-- Forgets the errors of field `f`. -/
  | clear (f : FieldId)
  /-- Hands out every recorded error and forgets them. -/
  | take
  deriving DecidableEq, Repr

/-- What an operation on a request answers. -/
inductive RequestReply where
  | answer (granted : Bool)
  | drained (errors : List (FieldId × FieldError))
  | done
  deriving DecidableEq, Repr

/-- Whether the operation is a permission question. -/
def RequestStep.isQuestion : RequestStep → Bool
  | .can .. => true
  | _ => false

/-- The answer to a permission question, when the reply is one. -/
def RequestReply.answer? : RequestReply → Option Bool
  | .answer b => some b
  | _ => none

namespace CachedRequest

variable {σ : Type}

/-- A new request of actor `a`, with the source `src` in state `st`: nothing asked yet, nothing
recorded. -/
def new (a : Actor) (src : PermissionSource σ) (st : σ) : CachedRequest σ :=
  { permissions := { actor := a, source := src, state := st } }

/-- Whether the actor has `access` on field `f`, through the cache. -/
def can (r : CachedRequest σ) (access : Access) (f : FieldId) : Bool × CachedRequest σ :=
  let (b, c) := r.permissions.can access f
  (b, { r with permissions := c })

/-- The request with one more error recorded for field `f`. -/
def record (r : CachedRequest σ) (f : FieldId) (e : FieldError) : CachedRequest σ :=
  { r with errors := r.errors ++ [(f, e)] }

/-- The request without the errors of field `f`. -/
def clear (r : CachedRequest σ) (f : FieldId) : CachedRequest σ :=
  { r with errors := r.errors.filter (·.1 != f) }

/-- All recorded errors grouped by field in increasing id order, and the request without them. -/
def take (r : CachedRequest σ) : List (FieldId × FieldError) × CachedRequest σ :=
  (r.errors.mergeSort (fun a b => a.1 ≤ b.1), { r with errors := [] })

/-- Runs one operation. -/
def step (r : CachedRequest σ) : RequestStep → RequestReply × CachedRequest σ
  | .can access f =>
    let (b, r') := r.can access f
    (.answer b, r')
  | .record f e => (.done, r.record f e)
  | .clear f => (.done, r.clear f)
  | .take =>
    let (es, r') := r.take
    (.drained es, r')

/-- Runs operations in order: one reply per operation, and the request at the end. -/
def run (r : CachedRequest σ) : List RequestStep → List RequestReply × CachedRequest σ
  | [] => ([], r)
  | op :: ops =>
    let (reply, r₁) := r.step op
    let (replies, r₂) := r₁.run ops
    (reply :: replies, r₂)

@[simp] theorem run_nil (r : CachedRequest σ) : r.run [] = ([], r) := rfl

@[simp] theorem run_cons_fst (r : CachedRequest σ) (op : RequestStep) (ops : List RequestStep) :
    (r.run (op :: ops)).1 = (r.step op).1 :: ((r.step op).2.run ops).1 := rfl

@[simp] theorem run_cons_snd (r : CachedRequest σ) (op : RequestStep) (ops : List RequestStep) :
    (r.run (op :: ops)).2 = ((r.step op).2.run ops).2 := rfl

end CachedRequest
end ListField
