/- A text cut at separators. -/
namespace CommandGateway.Text

/-- The pieces of a list between the elements that `p` holds of, always at least one. -/
def pieces {α : Type} (p : α → Bool) : List α → List (List α)
  | [] => [[]]
  | c :: cs =>
    match pieces p cs with
    | [] => [[c]]
    | piece :: rest => if p c then [] :: piece :: rest else (c :: piece) :: rest

end CommandGateway.Text
