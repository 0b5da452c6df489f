import FortranWriter.Text.Basic
/-! How similar two words are, by the Jaro measure: characters match if they are equal and not too
far apart, each of them once. -/
namespace FortranWriter.CommandLine.Similarity

/-- The places in the second word that match the characters of the first one, which are in order and
begin at a place. A place is taken by the first character that it matches. -/
def matchesFrom (range : Nat) (second : Array Char) (place : Nat) (taken : List Nat) :
    Text → List (Option Nat)
  | [] => []
  | c :: rest =>
    let fits (j : Nat) : Bool :=
      place ≤ j + range && second[j]? == some c && !taken.contains j
    let found := (List.range (min second.size (place + range + 1))).find? fits
    found :: matchesFrom range second (place + 1) (found.toList ++ taken) rest

/-- From 0 for words with nothing in common to 1 for equal words: the mean of the share of each word
that matches and the share of the matches that are in order. -/
def jaro (a b : Text) : Float :=
  let range := max a.length b.length / 2 - 1
  let found := matchesFrom range b.toArray 0 [] a
  let matched := (found.filterMap id).length
  if a.isEmpty && b.isEmpty then 1.0
  else if matched = 0 then 0.0
  else
    let inFirst := (a.zip found).filterMap fun (c, place) => place.map fun _ => c
    let places := found.filterMap id
    let inSecond := b.zipIdx.filterMap fun (c, j) => if places.contains j then some c else none
    let crossed := ((inFirst.zip inSecond).countP fun (c, d) => c != d) / 2
    (matched.toFloat / a.length.toFloat + matched.toFloat / b.length.toFloat +
      (matched - crossed).toFloat / matched.toFloat) / 3.0

/-- The words that are more similar than not, the most similar last. -/
def similar (given : Text) (known : List Text) : List Text :=
  let scored := known.filterMap fun word =>
    let score := jaro given word
    if score > 0.7 then some (score, word) else none
  (scored.mergeSort fun x y => x.1 ≤ y.1).map Prod.snd

end FortranWriter.CommandLine.Similarity
