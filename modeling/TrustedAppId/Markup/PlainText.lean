import TrustedAppId.Markup.Token
/-! Scalars without quotes. Such a scalar ends at a colon that ends a word, at a comment, at a
document mark, at a bracket or comma in flow notation, and outside of it where a line is indented
less than the block asks for. Blanks inside it count on one line and fold over several. -/
namespace TrustedAppId.Markup

/-- A scalar, what follows it, and whether the blanks in front of that hold a line break. -/
structure PlainText where
  text : List Char
  after : Cursor
  brokeLine : Bool

/-- A colon before one of these is refused in flow notation. -/
def refusedAfterColon (c : Option Char) : Bool :=
  match c with
  | some c => c = '?' || isFlowMark c
  | none => false

/-- Reads on from within a scalar: `done` holds its characters so far, last one first, and `gap` the
blanks since then. -/
def plainText (flow : Bool) (indent : Nat) :
    List Char → Position → Gap → (done : List Char) → Option PlainText
  | '\r' :: '\n' :: rest, p, gap, done =>
    plainText flow indent rest (p.nextLine 2) (gap.addBreak '\n') done
  | c :: rest, p, gap, done =>
    let stop := some ⟨done.reverse, ⟨c :: rest, p⟩, gap.isBreaks⟩
    if isSpacing c then
      if gap.isBreaks ∧ c = '\t' ∧ p.column < indent then none
      else plainText flow indent rest (p.next c) (gap.addSpacing c) done
    else if isBreak c then
      plainText flow indent rest (p.nextLine c.utf8Size) (gap.addBreak c) done
    else if ¬ gap.isNone ∧ ¬ flow ∧ p.column < indent then stop
    else if ¬ gap.isNone ∧ p.column = 0 ∧ isDocumentMark (c :: rest) then stop
    else if ¬ gap.isNone ∧ c = '#' then stop
    else if flow ∧ c = ':' ∧ refusedAfterColon rest.head? then none
    else if (c = ':' ∧ endsWord rest.head?) ∨ (flow ∧ isFlowMark c) then stop
    else plainText flow indent rest (p.next c) .none (c :: gap.fill.reverse ++ done)
  | [], p, gap, done => some ⟨done.reverse, ⟨[], p⟩, gap.isBreaks⟩

end TrustedAppId.Markup
