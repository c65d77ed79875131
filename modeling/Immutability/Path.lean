import Immutability.Text.Search

/-!
# Paths

A path is joined onto another by appending its segments. Empty segments and single dots are dropped, and
two dots take back the segment before them, if there is one. The result begins with a slash exactly when
the first path does.
-/

set_option autoImplicit false

namespace Immutability.Path

def slash : Char := '/'

/-- Takes one more segment into a normalized path, given latest segment first. -/
def take (segments : List (List Char)) (segment : List Char) : List (List Char) :=
  match segment with
  | [] | ['.'] => segments
  | ['.', '.'] => segments.tail
  | segment => segment :: segments

/-- The segments of a path that are left when it is normalized. -/
def normalize (segments : List (List Char)) : List (List Char) := (segments.foldl take []).reverse

def join (base relative : String) : String :=
  let segments := normalize (Text.splitAt slash base.toList ++ Text.splitAt slash relative.toList)
  let joined := List.intercalate [slash] segments
  String.ofList (if base.toList.head? = some slash then slash :: joined else joined)

end Immutability.Path
