set_option autoImplicit false

namespace JavaDiagnostics.Text

-- One field more than there are separators.
def fields (separator : Char) : List Char → List (List Char)
  | [] => [[]]
  | c :: rest =>
      if c = separator then [] :: fields separator rest
      else
        match fields separator rest with
        | [] => [[c]]
        | field :: more => (c :: field) :: more

def words (separates : Char → Bool) : List Char → List (List Char)
  | [] => []
  | c :: rest =>
      if separates c then words separates rest
      else
        (c :: rest.takeWhile (!separates ·)) :: words separates (rest.dropWhile (!separates ·))
termination_by text => text.length
decreasing_by
  · simp
  · have bound := List.dropWhile_sublist (l := rest) (p := (!separates ·)) |>.length_le
    simp only [List.length_cons]
    omega

end JavaDiagnostics.Text
