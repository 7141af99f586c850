/-!
# Splitting and joining texts
-/
set_option autoImplicit false

namespace IndexExport.Text

/-- The pieces between the characters that `cut` picks; one more than there are cuts. -/
def splitBy (cut : Char → Bool) : List Char → List (List Char)
  | [] => [[]]
  | c :: rest =>
    if cut c then [] :: splitBy cut rest
    else
      match splitBy cut rest with
      | [] => [[c]]
      | piece :: more => (c :: piece) :: more

def joinWith (between : List Char) : List (List Char) → List Char
  | [] => []
  | [piece] => piece
  | piece :: next :: rest => piece ++ between ++ joinWith between (next :: rest)

/-- The pieces that each end with an element that `last` picks; what follows the last such
element is a piece of its own. -/
def splitAfter {α : Type} (last : α → Bool) : List α → List (List α)
  | [] => []
  | a :: rest =>
    if last a then [a] :: splitAfter last rest
    else
      match splitAfter last rest with
      | [] => [[a]]
      | piece :: more => (a :: piece) :: more

def breakAt (stop : Char → Bool) (cs : List Char) : List Char × List Char :=
  (cs.takeWhile fun c => !stop c, cs.dropWhile fun c => !stop c)

end IndexExport.Text
