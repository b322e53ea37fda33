/-!
# Similar words

Two words are compared by their Jaro similarity: the characters they share in
nearly the same place (`m` matches, within half the longer length of each other),
and how many of those come in a different order (`t` half-transpositions). The
similarity is the mean of `m / |a|`, `m / |b|` and `(m - t) / m`, kept here as an
exact fraction so that comparisons do not round.

`similarTo` keeps the candidates more similar than 0.7 to a word, least similar
first (candidates equally similar keep their order), so that the best is last.
-/

namespace ListField
namespace Similar

/-- The characters of `a` matched in `b`, in `a`'s order, and the positions of `b`
that were matched. -/
def matchChars (a b : Array Char) : List Char × Array Bool :=
  let range := max a.size b.size / 2 - 1
  a.toList.zipIdx.foldl (fun (acc : List Char × Array Bool) (c, i) =>
    let (found, taken) := acc
    let lo := i - range
    let hi := min b.size (i + range + 1)
    match (List.range' lo (hi - lo)).find? fun j => b[j]? == some c && taken[j]? == some false with
    | some j => (found ++ [c], taken.setIfInBounds j true)
    | none => (found, taken)) ([], Array.replicate b.size false)

/-- The Jaro similarity of two words as a fraction `(numerator, denominator)`, or
`none` when it is zero. Two empty words are alike. -/
def jaro (a b : String) : Option (Nat × Nat) :=
  let xs := a.toList.toArray
  let ys := b.toList.toArray
  if xs.size = 0 && ys.size = 0 then some (1, 1)
  else if xs.size = 0 || ys.size = 0 then none
  else
    let (fromA, taken) := matchChars xs ys
    let fromB := (ys.toList.zip taken.toList).filterMap fun (c, t) => if t then some c else none
    let m := fromA.length
    let t := ((fromA.zip fromB).filter fun (p, q) => p != q).length / 2
    if m = 0 then none
    else
      let la := xs.size
      let lb := ys.size
      -- (m/la + m/lb + (m-t)/m) / 3 over the common denominator 3·la·lb·m
      some (m * m * lb + m * m * la + (m - t) * la * lb, 3 * la * lb * m)

/-- Whether the first fraction is at most the second. -/
def fracLe (p q : Nat × Nat) : Bool := p.1 * q.2 ≤ q.1 * p.2

/-- The candidates more similar than 0.7 to `word`, least similar first. -/
def similarTo (word : String) (candidates : List String) : List String :=
  let scored := candidates.filterMap fun c =>
    match jaro word c with
    | some f => if f.1 * 10 > 7 * f.2 then some (f, c) else none
    | none => none
  (scored.mergeSort fun x y => fracLe x.1 y.1).map (·.2)

end Similar
end ListField
