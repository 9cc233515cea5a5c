/-! Cutting a text at marks. -/
namespace AuthSigner.Text

/-- The pieces between one mark and the next, empty ones included. -/
def pieces {α : Type} (isMark : α → Bool) : List α → List (List α)
  | [] => [[]]
  | c :: rest =>
    if isMark c then [] :: pieces isMark rest
    else match pieces isMark rest with
      | piece :: others => (c :: piece) :: others
      | [] => [[c]]

end AuthSigner.Text
