import CheckDoc.Text.Blank

/-!
# Links in a text

A link is a scheme, `http` or `https`, with `://` and one or more items after it. An item is a
plain character or a pair of parentheses around plain characters, so that a parenthesis belongs to
a link only where it is closed. Links are taken from left to right, each as long as it can be. The
punctuation that ends a sentence is then cut from the end, and repetitions are dropped.
-/

namespace CheckDoc.Link

/-- The characters besides white space that stand in no link on their own. -/
def delimiters : List Char := "<>\"'\x60()[]\x7b\x7d".toList

/-- Whether a character stands in a link on its own. -/
def isPlain (c : Char) : Bool := !Text.isSpace c && !delimiters.contains c

/-- The plain characters after an opening parenthesis, and what follows the closing one. -/
def group? (s : List Char) : Option (List Char × List Char) :=
  match s.dropWhile isPlain with
  | ')' :: rest => some (s.takeWhile isPlain, rest)
  | _ => none

/-- What follows a group is shorter than the text it was read from. -/
theorem length_of_group? {s inner rest : List Char} (h : group? s = some (inner, rest)) :
    rest.length < s.length := by
  have hle : (s.dropWhile isPlain).length ≤ s.length := (List.dropWhile_sublist isPlain).length_le
  unfold group? at h
  split at h
  · next rest' heq =>
    simp only [Option.some.injEq, Prod.mk.injEq] at h
    rw [heq, h.2, List.length_cons] at hle
    omega
  · simp at h

/-- The longest run of items at the start of a text. -/
def itemsPrefix (s : List Char) : List Char :=
  match s with
  | [] => []
  | c :: rest =>
    if isPlain c then c :: itemsPrefix rest
    else if c = '(' then
      match _h : group? rest with
      | some (inner, after) => '(' :: inner ++ ')' :: itemsPrefix after
      | none => []
    else []
termination_by s.length
decreasing_by
  · simp
  · have := length_of_group? _h
    simp only [List.length_cons]
    omega

/-- The scheme at the start of a text, and what follows it. -/
def scheme? : List Char → Option (List Char × List Char)
  | 'h' :: 't' :: 't' :: 'p' :: ':' :: '/' :: '/' :: rest => some ("http://".toList, rest)
  | 'h' :: 't' :: 't' :: 'p' :: 's' :: ':' :: '/' :: '/' :: rest => some ("https://".toList, rest)
  | _ => none

/-- The longest link at the start of a text. -/
def linkPrefix? (s : List Char) : Option (List Char) :=
  match scheme? s with
  | none => none
  | some (scheme, rest) =>
    match itemsPrefix rest with
    | [] => none
    | items => some (scheme ++ items)

/-- The links of a text from left to right, after `skip` characters of it. -/
def matchesFrom (skip : Nat) : List Char → List (List Char)
  | [] => []
  | c :: rest =>
    match skip with
    | n + 1 => matchesFrom n rest
    | 0 =>
      match linkPrefix? (c :: rest) with
      | some link => link :: matchesFrom (link.length - 1) rest
      | none => matchesFrom 0 rest

/-- The punctuation that is no part of a link at its end. -/
def endPunctuation : List Char := ".,;:!?*".toList

/-- A text without the punctuation at its end. -/
def dropPunctuation (s : List Char) : List Char :=
  (s.reverse.dropWhile endPunctuation.contains).reverse

/-- The links of a text in order, without repetitions. -/
def extract (text : String) : List String :=
  ((matchesFrom 0 text.toList).map fun link => String.ofList (dropPunctuation link)).eraseDups

end CheckDoc.Link
