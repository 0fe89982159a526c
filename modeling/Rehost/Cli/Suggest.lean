/-!
# Suggestions for mistyped names

A mistyped option, command or value is answered with the known names that
resemble it. Resemblance is the Jaro similarity: characters of one name
match equal characters of the other that are not yet matched and lie within
half the longer length (less one) of the same position; with `m` matches of
which `t` pairs are out of order (half the out-of-order matched characters),
the similarity of names of lengths `a` and `b` is
`(m/a + m/b + (m - t)/m) / 3`, and `0` without matches.

A name is suggested when its similarity exceeds `0.7`. Scores are kept as
exact fractions, so comparisons do not round.
-/

namespace Rehost.Cli

/-- A similarity as an exact fraction. -/
structure Score where
  num : Nat
  den : Nat
  deriving Repr, Inhabited

/-- Whether a score is below another. -/
def Score.lt (x y : Score) : Bool := x.num * y.den < y.num * x.den

/-- The first free position of `b` holding `c` within `[lo, hi)`. -/
def freeMatch (c : Char) (lo hi : Nat) (b : List Char) (taken : List Bool) : Option Nat :=
  (List.range (min hi b.length)).find? fun j => lo ≤ j && b[j]? == some c && taken[j]? == some false

/-- Which characters of `a` and of `b` are matched. -/
def matchFlags (a b : List Char) : List Bool × List Bool :=
  let window := max a.length b.length / 2 - 1
  (a.zipIdx).foldl (fun (fa, fb) (c, i) =>
    match freeMatch c (i - window) (i + window + 1) b fb with
    | some j => (fa ++ [true], fb.set j true)
    | none => (fa ++ [false], fb)) ([], List.replicate b.length false)

/-- The Jaro similarity of two names. -/
def jaro (x y : String) : Score :=
  let a := x.toList
  let b := y.toList
  if a.isEmpty && b.isEmpty then ⟨1, 1⟩
  else if a.isEmpty || b.isEmpty then ⟨0, 1⟩
  else
    let (fa, fb) := matchFlags a b
    let ma := (a.zip fa).filterMap fun (c, f) => if f then some c else none
    let mb := (b.zip fb).filterMap fun (c, f) => if f then some c else none
    let m := ma.length
    if m == 0 then ⟨0, 1⟩
    else
      let t := ((ma.zip mb).filter fun (p, q) => p != q).length / 2
      ⟨m * m * b.length + m * m * a.length + (m - t) * a.length * b.length, 3 * a.length * b.length * m⟩

/-- Whether a score exceeds `0.7`. -/
def Score.close (s : Score) : Bool := 10 * s.num > 7 * s.den

/-- The names resembling `v`, least similar first; equally similar ones keep their order. -/
def similar (v : String) (names : List String) : List String :=
  let scored := (names.map fun n => (jaro v n, n)).filter (·.1.close)
  (scored.mergeSort fun p q => !q.1.lt p.1).map (·.2)

/-- The name most resembling `v`, the last of the most similar. -/
def mostSimilar (v : String) (names : List String) : Option String := (similar v names).getLast?

end Rehost.Cli
