/-!
# Cutting texts

`cutAt` cuts a text at every character of a class.
-/

namespace TableSchema.Text

/-- The pieces of a text between the characters of a class.  There is one more piece than there are such characters. -/
def cutAt (isEnd : Char → Bool) : List Char → List (List Char)
  | [] => [[]]
  | c :: rest =>
    if isEnd c then [] :: cutAt isEnd rest
    else match cutAt isEnd rest with
      | [] => [[c]]
      | piece :: pieces => (c :: piece) :: pieces

end TableSchema.Text
