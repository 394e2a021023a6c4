import CheckDoc.Text.Half

/-!
# Sets of names

A set of names is a list in the order of code points without repetitions.
-/

namespace CheckDoc

/-- Whether a name comes before another one. -/
def nameBefore (a b : String) : Bool :=
  decide (a.toList.map Text.codeOf < b.toList.map Text.codeOf)

/-- The set of some names. -/
def nameSet (names : List String) : List String :=
  names.eraseDups.mergeSort fun a b => !nameBefore b a

end CheckDoc
