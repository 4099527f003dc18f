import TrustedAppId.Markup.Token
import TrustedAppId.Text.Digits
/-! Scalars between quotes. Between single quotes a quote is written twice and nothing else is
special; between double quotes a backslash begins an escape. Line breaks fold in both, and no
document mark may stand at the start of a line. -/
namespace TrustedAppId.Markup

inductive Escape where
  /-- Stands for this character. -/
  | char (c : Char)
  /-- The code point follows in so many hexadecimal digits. -/
  | code (digits : Nat)

def escapeOf (c : Char) : Option Escape :=
  match c with
  | '0' => some (.char '\x00')
  | 'a' => some (.char '\x07')
  | 'b' => some (.char '\x08')
  | 't' => some (.char '\t')
  | '\t' => some (.char '\t')
  | 'n' => some (.char '\n')
  | 'v' => some (.char '\x0b')
  | 'f' => some (.char '\x0c')
  | 'r' => some (.char '\r')
  | 'e' => some (.char '\x1b')
  | ' ' => some (.char ' ')
  | '\x22' => some (.char '\x22')
  | '/' => some (.char '/')
  | '\\' => some (.char '\\')
  | 'N' => some (.char '\u0085')
  | '_' => some (.char '\u00a0')
  | 'L' => some (.char '\u2028')
  | 'P' => some (.char '\u2029')
  | 'x' => some (.code 2)
  | 'u' => some (.code 4)
  | 'U' => some (.code 8)
  | _ => none

/-- The character of a code point that has one. -/
def charOfCode? (n : Nat) : Option Char :=
  if n < 0xd800 ∨ (0xdfff < n ∧ n ≤ 0x10ffff) then some (Char.ofNat n) else none

/-- Reads on from within single quotes, up to and with the closing one. -/
def singleQuoted : List Char → Position → Gap → (done : List Char) →
    Option (List Char × Cursor)
  | '\r' :: '\n' :: rest, p, gap, done =>
    singleQuoted rest (p.nextLine 2) (gap.addBreak '\n') done
  | '\x27' :: '\x27' :: rest, p, gap, done =>
    singleQuoted rest ((p.next '\x27').next '\x27') .none ('\x27' :: gap.fill.reverse ++ done)
  | c :: rest, p, gap, done =>
    if isSpacing c then singleQuoted rest (p.next c) (gap.addSpacing c) done
    else if isBreak c then singleQuoted rest (p.nextLine c.utf8Size) (gap.addBreak c) done
    else if p.column = 0 ∧ isDocumentMark (c :: rest) then none
    else if c = '\x27' then some ((gap.fill.reverse ++ done).reverse, ⟨rest, p.next c⟩)
    else singleQuoted rest (p.next c) .none (c :: gap.fill.reverse ++ done)
  | [], _, _, _ => none

/-- Reads on from within double quotes, up to and with the closing one. `code` holds the digits
still missing of an escaped code point, and its value so far. -/
def doubleQuoted : (code : Option (Nat × Nat)) → List Char → Position → Gap →
    (done : List Char) → Option (List Char × Cursor)
  | some (left, value), c :: rest, p, _, done =>
    if Hex.isDigit c then
      let value := value * 16 + Hex.digitValue c
      match left with
      | 0 | 1 =>
        (charOfCode? value).bind fun meaning =>
          doubleQuoted none rest (p.next c) .none (meaning :: done)
      | left + 2 => doubleQuoted (some (left + 1, value)) rest (p.next c) .none done
    else none
  | none, '\r' :: '\n' :: rest, p, gap, done =>
    doubleQuoted none rest (p.nextLine 2) (gap.addBreak '\n') done
  | none, '\\' :: '\r' :: '\n' :: rest, p, gap, done =>
    doubleQuoted none rest ((p.next '\\').nextLine 2) (.breaks [] []) (gap.fill.reverse ++ done)
  | none, '\\' :: c :: rest, p, gap, done =>
    let done := gap.fill.reverse ++ done
    let p := p.next '\\'
    if isBreak c then doubleQuoted none rest (p.nextLine c.utf8Size) (.breaks [] []) done
    else match escapeOf c with
      | some (.char meaning) => doubleQuoted none rest (p.next c) .none (meaning :: done)
      | some (.code digits) => doubleQuoted (some (digits, 0)) rest (p.next c) .none done
      | none => none
  | none, c :: rest, p, gap, done =>
    if isSpacing c then doubleQuoted none rest (p.next c) (gap.addSpacing c) done
    else if isBreak c then doubleQuoted none rest (p.nextLine c.utf8Size) (gap.addBreak c) done
    else if p.column = 0 ∧ isDocumentMark (c :: rest) then none
    else if c = '\x22' then some ((gap.fill.reverse ++ done).reverse, ⟨rest, p.next c⟩)
    else doubleQuoted none rest (p.next c) .none (c :: gap.fill.reverse ++ done)
  | _, [], _, _, _ => none

end TrustedAppId.Markup
