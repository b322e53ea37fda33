import Mathlib.Data.List.Nodup
import Mathlib.Tactic.SplitIfs
import ListField.Exchange
/-!
# Colours and choices read back as they are written

A colour is written `#rrggbb` in lowercase hexadecimal, and reading is lenient about the frame
only: blanks around the text and leading `#` are dropped, and the six digits that must remain may
be of either case. A choice is written as a JSON object with its optional members left out when
absent, and read back with them defaulted.

* `Decorator.render_eq_digits`: a colour is `#` and six lowercase hexadecimal digits.
* `Decorator.parse_render`: a written colour reads back as itself.
* `Decorator.parse_eq_ok_iff`: which texts read as a colour, and as which one.
* `Choice.ofJson_toJson`: a choice whose id is a 64-bit integer reads back as itself.
* `Choice.toJson_has`: a choice's description and colour are written only when present.
* `Choice.colour_and_json_round_trip`: the whole of it.
-/

namespace ListField

/-- A text whose first and last characters are not blank is its own trimmed form. -/
theorem Text.trimChars_eq_self {c : Char} {l : List Char} (hc : Text.isBlank c = false)
    (hl : ∀ x ∈ (c :: l).getLast?, Text.isBlank x = false) : Text.trimChars (c :: l) = c :: l := by
  obtain ⟨init, last, heq⟩ : ∃ init last, c :: l = init ++ [last] :=
    ⟨_, _, (List.dropLast_concat_getLast (List.cons_ne_nil c l)).symm⟩
  have hlast : Text.isBlank last = false := hl last (by rw [heq, List.getLast?_concat]; rfl)
  unfold Text.trimChars
  rw [List.dropWhile_cons_of_neg (by simp [hc]), heq, List.reverse_concat,
    List.dropWhile_cons_of_neg (by simp [hlast]), ← List.reverse_concat, List.reverse_reverse]

namespace Decorator

/-! ## Hexadecimal digits -/

theorem hexValue?_hexDigit {n : Nat} (h : n < 16) : hexValue? (hexDigit n) = some n := by
  rcases n with _ | _ | _ | _ | _ | _ | _ | _ | _ | _ | _ | _ | _ | _ | _ | _ | n
  all_goals first | rfl | omega

/-- A digit as written is a lowercase hexadecimal digit, neither blank nor `#`. -/
theorem hexDigit_written {n : Nat} (h : n < 16) :
    (hexDigit n).isHexDigit = true ∧ (hexDigit n).toLower = hexDigit n ∧
      Text.isBlank (hexDigit n) = false ∧ hexDigit n ≠ '#' := by
  rcases n with _ | _ | _ | _ | _ | _ | _ | _ | _ | _ | _ | _ | _ | _ | _ | _ | n
  all_goals first | decide | omega

theorem hexValue?_isSome (c : Char) : (hexValue? c).isSome = c.isHexDigit := by
  unfold hexValue? Char.isHexDigit Char.isDigit
  simp only [Char.le_def]
  split_ifs <;> simp_all

/-- A digit read in either case is written back in lowercase. -/
theorem hexDigit_of_hexValue? {c : Char} {n : Nat} (h : hexValue? c = some n) :
    n < 16 ∧ hexDigit n = c.toLower := by
  -- a hexadecimal digit is an ASCII character, so its cases are finitely many
  obtain ⟨m, hm, rfl⟩ : ∃ m, m < 128 ∧ c = Char.ofNat m := by
    refine ⟨c.toNat, ?_, (Char.ofNat_toNat c).symm⟩
    unfold hexValue? at h
    split at h
    · next hd => have : c.toNat ≤ 57 := hd.2; omega
    · split at h
      · next hd => have : c.toNat ≤ 102 := hd.2; omega
      · split at h
        · next hd => have : c.toNat ≤ 70 := hd.2; omega
        · cases h
  revert n
  revert m
  decide

/-! ## Channels -/

theorem channel?_channelText (v : UInt8) :
    channel? (hexDigit (v.toNat / 16)) (hexDigit (v.toNat % 16)) = some v := by
  have hv := v.toNat_lt
  have hhi : v.toNat / 16 < 16 := by omega
  have hlo : v.toNat % 16 < 16 := Nat.mod_lt _ (by decide)
  simp only [channel?, hexValue?_hexDigit hhi, hexValue?_hexDigit hlo, Option.bind_eq_bind,
    Option.bind_some]
  rw [Nat.mul_comm, Nat.div_add_mod, UInt8.ofNat_toNat]
  rfl

/-- Two digits read as a channel are written back as the same digits in lowercase. -/
theorem channel?_eq_some {hi lo : Char} {v : UInt8} (h : channel? hi lo = some v) :
    hi.isHexDigit = true ∧ lo.isHexDigit = true ∧
      (channelText v).toList = [hi.toLower, lo.toLower] := by
  simp only [channel?, Option.bind_eq_bind] at h
  obtain ⟨a, ha, h⟩ := Option.bind_eq_some_iff.1 h
  obtain ⟨b, hb, h⟩ := Option.bind_eq_some_iff.1 h
  obtain ⟨ha16, hda⟩ := hexDigit_of_hexValue? ha
  obtain ⟨hb16, hdb⟩ := hexDigit_of_hexValue? hb
  cases Option.some.inj h
  have hval : (UInt8.ofNat (a * 16 + b)).toNat = a * 16 + b := by
    rw [UInt8.toNat_ofNat_of_lt' (by change a * 16 + b < 256; omega)]
  refine ⟨?_, ?_, ?_⟩
  · rw [← hexValue?_isSome, ha]; rfl
  · rw [← hexValue?_isSome, hb]; rfl
  · simp only [channelText, String.toList_ofList, hval]
    rw [show (a * 16 + b) / 16 = a by omega, show (a * 16 + b) % 16 = b by omega, hda, hdb]

theorem channel?_of_isHexDigit {hi lo : Char} (hh : hi.isHexDigit = true)
    (hl : lo.isHexDigit = true) : ∃ v, channel? hi lo = some v := by
  obtain ⟨a, ha⟩ := Option.isSome_iff_exists.1 ((hexValue?_isSome hi).trans hh)
  obtain ⟨b, hb⟩ := Option.isSome_iff_exists.1 ((hexValue?_isSome lo).trans hl)
  exact ⟨UInt8.ofNat (a * 16 + b), by simp only [channel?, ha, hb]; rfl⟩

/-! ## Writing and reading a colour -/

/-- The six digits a colour is written with, two per channel. -/
def digits (d : Decorator) : List Char :=
  [hexDigit (d.r.toNat / 16), hexDigit (d.r.toNat % 16), hexDigit (d.g.toNat / 16),
    hexDigit (d.g.toNat % 16), hexDigit (d.b.toNat / 16), hexDigit (d.b.toNat % 16)]

theorem render_toList (d : Decorator) : d.render.toList = '#' :: d.digits := by
  simp [render, digits, channelText]

/-- Each digit of a colour is the digit of a number below sixteen. -/
theorem mem_digits {d : Decorator} {c : Char} (hc : c ∈ d.digits) : ∃ n, n < 16 ∧ c = hexDigit n := by
  have := d.r.toNat_lt; have := d.g.toNat_lt; have := d.b.toNat_lt
  simp only [digits, List.mem_cons, List.not_mem_nil, or_false] at hc
  rcases hc with rfl | rfl | rfl | rfl | rfl | rfl
  all_goals exact ⟨_, by omega, rfl⟩

/-- A colour is written as `#` and six lowercase hexadecimal digits. -/
theorem render_eq_digits (d : Decorator) :
    d.digits.length = 6 ∧ (∀ c ∈ d.digits, c.isHexDigit = true ∧ c.toLower = c) ∧
      d.render = String.ofList ('#' :: d.digits) := by
  refine ⟨rfl, fun c hc => ?_, String.ext (by simp [render_toList])⟩
  obtain ⟨n, hn, rfl⟩ := mem_digits hc
  exact ⟨(hexDigit_written hn).1, (hexDigit_written hn).2.1⟩

example : render ⟨255, 0, 128⟩ = "#ff0080" := by decide

/-- A written colour reads back as itself. -/
theorem parse_render (d : Decorator) : parse d.render = .ok d := by
  -- the written text has no blank at either end, and one leading `#`
  have hlast : ∀ x ∈ ('#' :: d.digits).getLast?, Text.isBlank x = false := by
    intro x hx
    have hx : x = hexDigit (d.b.toNat % 16) := by simpa [digits] using hx.symm
    exact hx ▸ (hexDigit_written (Nat.mod_lt _ (by decide))).2.2.1
  have hfirst : d.digits.head? ≠ some '#' := by
    have := d.r.toNat_lt
    simp [digits, (hexDigit_written (show d.r.toNat / 16 < 16 by omega)).2.2.2]
  have hdrop : ('#' :: d.digits).dropWhile (· == '#') = d.digits := by
    rw [List.dropWhile_cons_of_pos (by decide)]
    cases hd : d.digits with
    | nil => rfl
    | cons c cs =>
      rw [hd] at hfirst
      exact List.dropWhile_cons_of_neg (by simpa using hfirst)
  unfold parse
  rw [Text.trim_toList, render_toList, Text.trimChars_eq_self (by decide) hlast, hdrop]
  simp only [digits, channel?_channelText]

theorem render_injective {d d' : Decorator} (h : d.render = d'.render) : d = d' := by
  have := (parse_render d).symm.trans (h ▸ parse_render d')
  cases this
  rfl

/-- Six digits read as three channels: each is a hexadecimal digit, and the colour is written
with the same digits in lowercase. -/
theorem channels_read {r1 r2 g1 g2 b1 b2 : Char} {r g b : UInt8} (hr : channel? r1 r2 = some r)
    (hg : channel? g1 g2 = some g) (hb : channel? b1 b2 = some b) :
    (∀ c ∈ [r1, r2, g1, g2, b1, b2], c.isHexDigit = true) ∧
      (⟨r, g, b⟩ : Decorator).render = "#" ++ String.ofList ([r1, r2, g1, g2, b1, b2].map Char.toLower) := by
  obtain ⟨hr1, hr2, htr⟩ := channel?_eq_some hr
  obtain ⟨hg1, hg2, htg⟩ := channel?_eq_some hg
  obtain ⟨hb1, hb2, htb⟩ := channel?_eq_some hb
  refine ⟨by simp [hr1, hr2, hg1, hg2, hb1, hb2], String.ext ?_⟩
  simp [render, htr, htg, htb]

/-- **Which texts read as a colour.** A text reads as the colour `d` exactly when, once the blanks
around it and every leading `#` are removed, it is six hexadecimal digits, and `d` is written as
`#` and those digits in lowercase. -/
theorem parse_eq_ok_iff (s : String) (d : Decorator) :
    parse s = .ok d ↔
      (((Text.trim s).toList.dropWhile (· == '#')).length = 6 ∧
        ∀ c ∈ (Text.trim s).toList.dropWhile (· == '#'), c.isHexDigit = true) ∧
      d.render = "#" ++ String.ofList (((Text.trim s).toList.dropWhile (· == '#')).map Char.toLower) := by
  unfold parse
  generalize (Text.trim s).toList.dropWhile (· == '#') = h
  constructor
  · -- what reads is six digits forming three channels
    intro hp
    split at hp
    · split at hp
      · next hr hg hb =>
        cases hp
        exact ⟨⟨rfl, (channels_read hr hg hb).1⟩, (channels_read hr hg hb).2⟩
      · cases hp
    · cases hp
  · -- six hexadecimal digits form three channels, and the colour is the one written so
    rintro ⟨⟨hlen, hhex⟩, hrender⟩
    rcases h with _ | ⟨r1, _ | ⟨r2, _ | ⟨g1, _ | ⟨g2, _ | ⟨b1, _ | ⟨b2, _ | ⟨x, t⟩⟩⟩⟩⟩⟩⟩
    all_goals simp only [List.length_cons, List.length_nil] at hlen
    all_goals try omega
    obtain ⟨r, hr⟩ := channel?_of_isHexDigit (hhex r1 (by simp)) (hhex r2 (by simp))
    obtain ⟨g, hg⟩ := channel?_of_isHexDigit (hhex g1 (by simp)) (hhex g2 (by simp))
    obtain ⟨b, hb⟩ := channel?_of_isHexDigit (hhex b1 (by simp)) (hhex b2 (by simp))
    simp only [hr, hg, hb]
    rw [render_injective ((channels_read hr hg hb).2.trans hrender.symm)]

example : parse " ##FF0080 " = .ok ⟨255, 0, 128⟩ := by rfl

/-- A written colour decodes from JSON as itself. -/
theorem decoratorOf_render (d : Decorator) : decoratorOf (.str d.render) = .ok d := by
  simp only [decoratorOf, Decoder.string, bind, Except.bind, parse_render]

end Decorator

/-! ## Objects -/

namespace Decoder

theorem ok_bind {α β : Type} (a : α) (f : α → Except DecodeError β) : (Except.ok a >>= f) = f a :=
  rfl

/-- A key is found alike in two orders of the same members when no key is repeated. -/
theorem find?_key_perm {l₁ l₂ : List (String × Json)} (hp : l₁.Perm l₂)
    (hn : (l₁.map (·.1)).Nodup) (k : String) : l₁.find? (·.1 == k) = l₂.find? (·.1 == k) := by
  cases h₁ : l₁.find? (·.1 == k) with
  | none =>
    refine (List.find?_eq_none.2 fun x hx => ?_).symm
    exact List.find?_eq_none.1 h₁ x (hp.mem_iff.2 hx)
  | some x =>
    -- the member found in the second order has the same key, so it is the same member
    have hx₁ := List.mem_of_find?_eq_some h₁
    have hxk : x.1 = k := by simpa using List.find?_some h₁
    obtain ⟨y, hy⟩ : ∃ y, l₂.find? (·.1 == k) = some y :=
      Option.isSome_iff_exists.1 (List.find?_isSome.2 ⟨x, hp.mem_iff.1 hx₁, by simp [hxk]⟩)
    rw [hy]
    have hyk : y.1 = k := by simpa using List.find?_some hy
    exact congrArg some (List.inj_on_of_nodup_map hn hx₁ (hp.mem_iff.2 (List.mem_of_find?_eq_some hy))
      (hxk.trans hyk.symm))

/-- An object whose members of known keys each pass their key's check is read as its members in
increasing key order. -/
theorem members_obj {name : String} {known : List (String × (Json → Option DecodeError))}
    {ms : List (String × Json)}
    (h : ∀ m ∈ ms, ∀ e ∈ known.find? (·.1 == m.1), e.2 m.2 = none) :
    members name known (.obj ms) = .ok (ms.mergeSort fun a b => a.1 ≤ b.1) := by
  simp only [members]
  rw [List.findSome?_eq_none_iff.2 fun m hm => ?_]
  cases he : known.find? (·.1 == m.1) with
  | none => rfl
  | some e => exact h m (List.mem_mergeSort.1 hm) e he

theorem need_mergeSort {α : Type} {ms : List (String × Json)} (hn : (ms.map (·.1)).Nodup)
    (key : String) (d : Decoder α) :
    need (ms.mergeSort fun a b => a.1 ≤ b.1) key d = need ms key d := by
  simp only [need, (find?_key_perm (List.mergeSort_perm ms _).symm hn key).symm]

theorem withDefault_mergeSort {α : Type} {ms : List (String × Json)} (hn : (ms.map (·.1)).Nodup)
    (key : String) (d : Decoder α) (dflt : α) :
    withDefault (ms.mergeSort fun a b => a.1 ≤ b.1) key d dflt = withDefault ms key d dflt := by
  simp only [withDefault, (find?_key_perm (List.mergeSort_perm ms _).symm hn key).symm]

end Decoder

/-! ## Choices -/

namespace Choice

/-- A choice is written with a description and a colour only when it has them. -/
theorem toJson_has (c : Choice) :
    c.toJson.has "description" = c.description.isSome ∧ c.toJson.has "decorator" = c.decorator.isSome := by
  obtain ⟨id, label, description, hidden, isDefault, decorator⟩ := c
  cases description <;> cases decorator <;> simp [toJson, Json.has]

/-- **A choice reads back as itself**, when its id is a 64-bit integer, as every stored id is. -/
theorem ofJson_toJson (c : Choice) (hlo : idMin ≤ c.id) (hhi : c.id ≤ idMax) :
    Choice.ofJson c.toJson = .ok c := by
  obtain ⟨id, label, description, hidden, isDefault, decorator⟩ := c
  have hid : Decoder.int64 (Json.int id) = .ok id := by
    simp only [Json.int, Decoder.int64]
    rw [if_pos ⟨hlo, hhi⟩]
  cases description <;> cases decorator
  all_goals
    simp only [Choice.ofJson, toJson]
    rw [Decoder.members_obj]
    · -- the members are read in any order, their keys being distinct
      simp (disch := simp) only [Decoder.ok_bind, Decoder.need_mergeSort, Decoder.withDefault_mergeSort]
      simp [Decoder.need, Decoder.withDefault, hid, Decoder.string, Decoder.boolean,
        Decoder.optional, Decorator.decoratorOf_render, Decoder.ok_bind]
    · simp [Decoder.checks, hid, Decoder.string, Decoder.boolean, Decoder.optional,
        Decorator.decoratorOf_render]

/-- **Colours and choices round trip.** A colour is written as `#` and six lowercase hexadecimal
digits and reads back as itself; a text reads as a colour exactly when, without the blanks around
it and its leading `#`, it is six hexadecimal digits, and then the colour is written with those
digits in lowercase. A choice with a 64-bit id reads back from its JSON object as itself, and the
object has a description and a colour exactly when the choice has them, so an absent one is left
out and read back as absent. -/
theorem colour_and_json_round_trip :
    (∀ d : Decorator, Decorator.parse d.render = .ok d ∧
      ∃ h : List Char, h.length = 6 ∧ (∀ c ∈ h, c.isHexDigit = true ∧ c.toLower = c) ∧
        d.render = String.ofList ('#' :: h)) ∧
    (∀ (s : String) (d : Decorator), Decorator.parse s = .ok d ↔
      (((Text.trim s).toList.dropWhile (· == '#')).length = 6 ∧
        ∀ c ∈ (Text.trim s).toList.dropWhile (· == '#'), c.isHexDigit = true) ∧
      d.render = "#" ++ String.ofList (((Text.trim s).toList.dropWhile (· == '#')).map Char.toLower)) ∧
    (∀ c : Choice, idMin ≤ c.id → c.id ≤ idMax → Choice.ofJson c.toJson = .ok c) ∧
    (∀ c : Choice, c.toJson.has "description" = c.description.isSome ∧
      c.toJson.has "decorator" = c.decorator.isSome) :=
  ⟨fun d => ⟨Decorator.parse_render d, d.digits, Decorator.render_eq_digits d⟩,
    Decorator.parse_eq_ok_iff, ofJson_toJson, toJson_has⟩

end Choice
end ListField
