/-!
# Parts of a text

## Main definitions

- `Text.split`: the runs of characters or octets between separators.
-/

namespace ControlPlane.Text

/-- The runs of characters or octets between the separators, empty ones included. -/
def split {α : Type} [DecidableEq α] (separator : α) : List α → List (List α)
  | [] => [[]]
  | c :: rest =>
    if c = separator then [] :: split separator rest
    else
      match split separator rest with
      | [] => [[c]]
      | part :: more => (c :: part) :: more

end ControlPlane.Text
