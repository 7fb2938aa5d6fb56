/-!
# Cutting texts

`splitAtEvery` cuts a text at each of its separators, so that there is always one piece more than
there are separators.
-/

namespace RowAccess.Text

/-- The pieces between the separators of a text. -/
def splitAtEvery (isSeparator : Char → Bool) : List Char → List (List Char)
  | [] => [[]]
  | c :: rest =>
      match splitAtEvery isSeparator rest with
      | [] => [[c]]
      | piece :: pieces =>
          if isSeparator c then [] :: piece :: pieces else (c :: piece) :: pieces

end RowAccess.Text
