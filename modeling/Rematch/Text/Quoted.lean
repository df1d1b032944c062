import Rematch.Text.Printable

/-!
# Quoted text

Text between double quotes, with every character that would not be seen as itself spelled out.
-/

namespace Rematch
namespace Text

/-- The spelling of a character by its number: `\u` and lower-case hexadecimal between braces. -/
def spelledOut (c : Char) : List Char :=
  ['\\', 'u', '{'] ++ Nat.toDigits 16 c.toNat ++ ['}']

/--
One character inside quotes. The quote and the backslash are escaped, four controls have letters of
their own, and any other character without a form of its own is spelled out.
-/
def quotedChar (c : Char) : List Char :=
  if c = '"' then ['\\', '"']
  else if c = '\\' then ['\\', '\\']
  else if c = '\t' then ['\\', 't']
  else if c = '\r' then ['\\', 'r']
  else if c = '\n' then ['\\', 'n']
  else if c.toNat = 0 then ['\\', '0']
  else if standsAlone c then [c]
  else spelledOut c

def quoted (text : List Char) : List Char :=
  '"' :: text.flatMap quotedChar ++ ['"']

@[simp] theorem quoted_nil : quoted [] = ['"', '"'] := rfl

theorem quoted_cons (c : Char) (text : List Char) :
    quoted (c :: text) = '"' :: (quotedChar c ++ (quoted text).tail) := by
  simp [quoted]

end Text
end Rematch
