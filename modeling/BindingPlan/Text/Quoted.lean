import BindingPlan.Text.Unprintable

/-! # Texts quoted in messages

A message shows a text between double quotes. The quote, the backslash and the common controls have
a short form with a backslash; a character without a visible form of its own is shown by its
number in braces. -/

namespace BindingPlan.Text

/-- The form of one character inside a quotation. -/
def quotedChar (c : Char) : List Char :=
  match c with
  | '"' => ['\\', '"']
  | '\\' => ['\\', '\\']
  | '\n' => ['\\', 'n']
  | '\r' => ['\\', 'r']
  | '\t' => ['\\', 't']
  | '\x00' => ['\\', '0']
  | c =>
    if isUnprintable c then
      "\\u\x7b".toList ++ Nat.toDigits 16 c.toNat ++ "\x7d".toList
    else [c]

/-- The text as a message quotes it. -/
def quote (s : String) : String :=
  String.ofList ('"' :: s.toList.flatMap quotedChar ++ ['"'])

end BindingPlan.Text
