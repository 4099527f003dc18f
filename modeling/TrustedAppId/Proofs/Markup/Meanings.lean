import TrustedAppId.Markup.Layout
import TrustedAppId.Proofs.Markup.Scalars
import TrustedAppId.Proofs.Text.Characters
import TrustedAppId.Proofs.Text.Digits
/-! What scalars mean that were spelt by the writer: texts without quotes mean texts, and the words
for null, truth values and integers mean these. -/
namespace TrustedAppId.Markup

theorem integer?_ne_string (cs : List Char) (s : String) : integer? cs ≠ some (.string s) := by
  simp only [integer?, bind, Option.bind, pure]
  cases magnitude? (splitSign cs).2 with
  | none => exact nofun
  | some size =>
    dsimp only
    repeat' split
    all_goals exact nofun

theorem float?_ne_string (cs : List Char) (s : String) : float? cs ≠ some (.string s) := by
  simp only [float?]
  repeat' split
  · exact nofun
  · exact nofun
  · cases decimal? (splitSign cs).1 (splitSign cs).2 with
    | none => exact nofun
    | some value => exact nofun

theorem string_of_plainMeaning {cs : List Char} {s : String} (h : plainMeaning cs = .string s) :
    s = String.ofList cs := by
  rw [plainMeaning] at h
  split at h
  · contradiction
  · split at h
    · contradiction
    · split at h
      · next found => exact absurd (found.trans (congrArg some h)) (integer?_ne_string cs s)
      · dsimp only at h
        split at h
        · exact (Found.string.inj h).symm
        · cases found : float? cs with
          | none =>
            rw [found] at h
            exact (Found.string.inj h).symm
          | some float =>
            rw [found] at h
            exact absurd (found.trans (congrArg some h)) (float?_ne_string cs s)

theorem plainMeaning_of_meansText {cs : List Char} (means : meansText cs = true) :
    plainMeaning cs = .string (String.ofList cs) := by
  rw [meansText, Bool.and_eq_true] at means
  cases found : plainMeaning cs with
  | string s => rw [string_of_plainMeaning found]
  | _ =>
    rw [found] at means
    exact absurd means.2 Bool.false_ne_true

theorem meaning_untagged (style : Style) (cs : List Char) :
    Scalar.meaning ⟨none, style, cs⟩ =
      .ok (if style = .plain then plainMeaning cs else .string (String.ofList cs)) := rfl

/-- A text means itself in the style that is chosen for it. -/
theorem meaning_text (cs : List Char) :
    Scalar.meaning ⟨none, styleOf cs, cs⟩ = .ok (.string (String.ofList cs)) := by
  rw [meaning_untagged]
  rcases styleOf_cases cs with ⟨style, -⟩ | ⟨style, means, -⟩ | ⟨style, -⟩ | style
  · rw [style, if_neg nofun]
  · rw [style, if_pos rfl, plainMeaning_of_meansText means]
  · rw [style, if_neg nofun]
  · rw [style, if_neg nofun]

/-! Numbers. -/

theorem ofDigits?_decimal {ds : List Char} (notEmpty : ds ≠ [])
    (digits : ∀ d ∈ ds, Decimal.isDigit d = true) :
    ofDigits? 10 ds = some (Decimal.value ds) := by
  have value (d : Char) (mem : d ∈ ds) : Hex.digitValue d = Decimal.digitValue d := by
    rw [Hex.digitValue, if_pos (show ('0' ≤ d && d ≤ '9') = true from digits d mem),
      Decimal.digitValue]
  have all : ds.all (fun c => Hex.isDigit c && Hex.digitValue c < 10) = true := by
    rw [List.all_eq_true]
    intro d mem
    have range := Decimal.toNat_of_isDigit (digits d mem)
    have small : Decimal.digitValue d < 10 := by
      rw [Decimal.digitValue]
      omega
    rw [value d mem, decide_eq_true small, Bool.and_true, Hex.isDigit,
      show ('0' ≤ d && d ≤ '9') = true from digits d mem]
    rfl
  have fold (start : Nat) (part : List Char) (mem : ∀ d ∈ part, d ∈ ds) :
      part.foldl (fun n c => n * 10 + Hex.digitValue c) start =
        part.foldl (fun n c => n * 10 + Decimal.digitValue c) start := by
    induction part generalizing start with
    | nil => rfl
    | cons d part ih =>
      obtain ⟨first, others⟩ := List.forall_mem_cons.mp mem
      rw [List.foldl_cons, List.foldl_cons, value d first, ih _ others]
  rw [ofDigits?, List.isEmpty_eq_false_iff.mpr notEmpty, all]
  exact congrArg some (fold 0 ds fun _ mem => mem)

theorem magnitude?_minimal (n : Nat) : magnitude? (Decimal.minimal n) = some n := by
  have digits : ∀ d ∈ Decimal.minimal n, Decimal.isDigit d = true :=
    fun _ => Decimal.isDigit_of_mem_minimal
  have value := ofDigits?_decimal (Decimal.minimal_ne_nil n) digits
  rw [Decimal.value_minimal] at value
  have unpadded : isPaddedDigits (Decimal.minimal n) = false := by
    rw [← Bool.not_eq_true]
    intro padded
    rw [isPaddedDigits.eq_def] at padded
    split at padded
    · next spelt => exact absurd (Decimal.minimal_leading spelt) (List.cons_ne_nil _ _)
    · contradiction
  have single (c : Char) (rest : List Char) : Decimal.minimal n ≠ '0' :: c :: rest := by
    intro spelt
    exact absurd (Decimal.minimal_leading spelt) (List.cons_ne_nil c rest)
  rw [magnitude?]
  · rw [unpadded, if_neg Bool.false_ne_true, value]
  · exact single 'x'
  · exact single 'o'
  · exact single 'b'

theorem splitSign_minimal (n : Nat) :
    splitSign (Decimal.minimal n) = (false, Decimal.minimal n) := by
  have digits : ∀ d ∈ Decimal.minimal n, Decimal.isDigit d = true :=
    fun _ => Decimal.isDigit_of_mem_minimal
  rw [splitSign]
  · intro rest spelt
    exact absurd (digits '-' (spelt ▸ List.mem_cons_self)) (by decide)
  · intro rest spelt
    exact absurd (digits '+' (spelt ▸ List.mem_cons_self)) (by decide)

theorem integer?_minimal {n : Nat} (small : n < Nat.pow 2 64) :
    integer? (Decimal.minimal n) = some (.integer n) := by
  simp only [integer?, splitSign_minimal, magnitude?_minimal, bind, Option.bind, small,
    Bool.false_eq_true, if_true, if_false]
  rfl

theorem integer?_minus {n : Nat} (small : n ≤ Nat.pow 2 63) :
    integer? ('-' :: Decimal.minimal n) = some (.integer (-n)) := by
  simp only [integer?, splitSign, magnitude?_minimal, bind, Option.bind, small, if_true]
  rfl

theorem toList_minus (n : Nat) :
    (toString (Int.negSucc n)).toList = '-' :: Decimal.minimal (n + 1) := by
  have spelt : toString (Int.negSucc n) = "-" ++ toString (n + 1) := by
    rw [Int.toString_eq_repr, Int.repr_eq_if, if_neg (by omega)]
    rfl
  rw [spelt, String.toList_append, Decimal.toList_toString]
  rfl

theorem integer?_toString {n : Int} (fits : Value.holds n = true) :
    integer? (toString n).toList = some (.integer n) := by
  simp only [Value.holds, Bool.and_eq_true, decide_eq_true_eq] at fits
  cases n with
  | ofNat n =>
    rw [show (toString (Int.ofNat n)).toList = Decimal.minimal n from Decimal.toList_toString n]
    exact integer?_minimal (Int.ofNat_lt.mp fits.2)
  | negSucc n =>
    rw [toList_minus, integer?_minus (by omega)]
    rfl

theorem not_isOneOf {words : List String} {cs : List Char} {found : Found}
    (none : ∀ word ∈ words, integer? word.toList = none) (h : integer? cs = some found) :
    isOneOf words cs = false := by
  rw [← Bool.not_eq_true, isOneOf, List.any_eq_true]
  rintro ⟨word, mem, same⟩
  rw [beq_iff_eq] at same
  rw [← same, none word mem] at h
  contradiction

theorem plainMeaning_of_integer? {cs : List Char} {n : Int}
    (h : integer? cs = some (.integer n)) : plainMeaning cs = .integer n := by
  have notEmpty : cs.isEmpty = false := by
    cases cs with
    | nil => contradiction
    | cons => rfl
  have notBool : bool? cs = none := by
    rw [bool?, not_isOneOf (by decide) h, not_isOneOf (by decide) h]
    rfl
  rw [plainMeaning, notEmpty, not_isOneOf (by decide) h, notBool, h]
  rfl

/-! Words of numbers need no quotes. -/

theorem anyNeighbours_eq_false {related : Char → Char → Bool} {cs : List Char}
    (apart : ∀ c ∈ cs, ∀ d ∈ cs, related c d = false) : anyNeighbours related cs = false := by
  induction cs with
  | nil => rfl
  | cons c rest ih =>
    rw [anyNeighbours_cons, ih fun a mem b other =>
      apart a (List.mem_cons_of_mem c mem) b (List.mem_cons_of_mem c other), Bool.or_false]
    cases rest with
    | nil => rfl
    | cons d rest =>
      exact apart c List.mem_cons_self d (List.mem_cons_of_mem c List.mem_cons_self)

/-- A minus sign or a digit. -/
def isNumberChar (c : Char) : Bool := c = '-' || Decimal.isDigit c

theorem toNat_of_isNumberChar {c : Char} (h : isNumberChar c = true) :
    c.toNat = 45 ∨ 48 ≤ c.toNat ∧ c.toNat ≤ 57 := by
  simpa [isNumberChar, Decimal.isDigit, Text.char_le_iff, Text.char_eq_iff] using h

theorem isPrintable_of_isNumberChar {c : Char} (h : isNumberChar c = true) :
    isPrintable c = true := by
  have := toNat_of_isNumberChar h
  rw [isPrintable_iff]
  omega

theorem not_endsWord_of_isNumberChar {c : Char} (h : isNumberChar c = true) :
    isSpacing c = false ∧ isBreak c = false := by
  have := toNat_of_isNumberChar h
  simp only [← Bool.not_eq_true, isSpacing_iff, isBreak_iff]
  omega

theorem plainAllowed_number {cs : List Char} (chars : ∀ c ∈ cs, isNumberChar c = true)
    (sign : ∀ rest, cs = '-' :: rest → rest.head?.any Decimal.isDigit = true) :
    plainAllowed cs = true := by
  have other {c d : Char} (mem : c ∈ cs) (h : isNumberChar d = false) : c ≠ d := by
    rintro rfl
    exact Bool.false_ne_true (h.symm.trans (chars c mem))
  have printable : cs.all isPrintable = true := by
    rw [List.all_eq_true]
    intro c mem
    exact isPrintable_of_isNumberChar (chars c mem)
  have unbroken : cs.any isBreak = false := by
    rw [List.any_eq_false]
    intro c mem
    rw [(not_endsWord_of_isNumberChar (chars c mem)).2]
    exact Bool.false_ne_true
  have inner (c : Char) (mem : c ∈ cs) : (decide (c = ' ') || isBreak c) = false := by
    rw [decide_eq_false (other mem (by decide)), (not_endsWord_of_isNumberChar (chars c mem)).2]
    rfl
  have outer : hasOuterBlank cs = false := by
    have blank (outer : Option Char) (mem : ∀ c, outer = some c → c ∈ cs) :
        outer.any (fun c => c = ' ' || isBreak c) = false := by
      cases outer with
      | none => rfl
      | some c => exact inner c (mem c rfl)
    exact Bool.or_eq_false_iff.mpr
      ⟨blank _ fun _ => List.mem_of_head?, blank _ fun _ => List.mem_of_getLast?⟩
  have marks : holdsMark cs = false := by
    have colons : anyNeighbours (fun c d => c = ':' && endsWord (some d)) cs = false := by
      apply anyNeighbours_eq_false
      intro c mem d _
      rw [decide_eq_false (other mem (by decide)), Bool.false_and]
    have comments : anyNeighbours (fun c d => endsWord (some c) && d = '#') cs = false := by
      apply anyNeighbours_eq_false
      intro c _ d mem
      rw [decide_eq_false (other mem (by decide)), Bool.and_false]
    have last : cs.getLast? ≠ some ':' := by
      intro last
      exact other (List.mem_of_getLast? last) (by decide) rfl
    rw [holdsMark, decide_eq_false last, colons, comments]
    rfl
  have first : beginsWithMark cs = false := by
    cases cs with
    | nil => rfl
    | cons c rest =>
      have here {d : Char} (h : isNumberChar d = false) : c ≠ d := other List.mem_cons_self h
      have dash : (['?', ':', '-'].contains c && endsWord rest.head?) = false := by
        cases rest with
        | nil =>
          have notMinus : c ≠ '-' := by
            rintro rfl
            exact absurd (sign [] rfl) Bool.false_ne_true
          simp [here (by decide : isNumberChar '?' = false),
            here (by decide : isNumberChar ':' = false), notMinus]
        | cons d rest =>
          have inside := not_endsWord_of_isNumberChar
            (chars d (List.mem_cons_of_mem c List.mem_cons_self))
          rw [List.head?_cons, endsWord, inside.1, inside.2]
          exact Bool.and_false _
      have others : firstMarks.all (fun mark => !isNumberChar mark) = true := rfl
      have apart : ∀ mark ∈ firstMarks, c ≠ mark := by
        intro mark mem
        exact here (by simpa using List.all_eq_true.mp others mark mem)
      simp only [firstMarks, List.forall_mem_cons] at apart
      rw [beginsWithMark, dash, Bool.or_false]
      simp [isFlowMark, apart]
  have line : beginsWithLine cs = false := by
    rw [beginsWithLine.eq_def]
    split
    · next rest => exact absurd (sign _ rfl) Bool.false_ne_true
    · next rest => exact absurd (chars '.' List.mem_cons_self) (by decide)
    · rfl
  rw [plainAllowed, printable, unbroken, outer, first, line, marks]
  rfl

theorem isNumberChar_of_mem_minimal {n : Nat} {c : Char} (mem : c ∈ Decimal.minimal n) :
    isNumberChar c = true := by
  rw [isNumberChar, Decimal.isDigit_of_mem_minimal mem, Bool.or_true]

theorem plainAllowed_minimal (n : Nat) : plainAllowed (Decimal.minimal n) = true := by
  apply plainAllowed_number fun _ => isNumberChar_of_mem_minimal
  intro rest spelt
  have digit : Decimal.isDigit '-' = true :=
    Decimal.isDigit_of_mem_minimal (spelt ▸ List.mem_cons_self)
  contradiction

theorem plainAllowed_toString (n : Int) : plainAllowed (toString n).toList = true := by
  cases n with
  | ofNat n =>
    rw [show (toString (Int.ofNat n)).toList = Decimal.minimal n from Decimal.toList_toString n]
    exact plainAllowed_minimal n
  | negSucc n =>
    rw [toList_minus]
    apply plainAllowed_number
    · intro c mem
      rcases List.mem_cons.mp mem with rfl | mem
      · rfl
      · exact isNumberChar_of_mem_minimal mem
    · intro rest spelt
      rw [← (List.cons.inj spelt).2]
      cases digits : Decimal.minimal (n + 1) with
      | nil => exact absurd digits (Decimal.minimal_ne_nil _)
      | cons d ds => exact Decimal.isDigit_of_mem_minimal (digits ▸ List.mem_cons_self)

theorem toString_ne_nil (n : Int) : (toString n).toList ≠ [] := by
  cases n with
  | ofNat n =>
    rw [show (toString (Int.ofNat n)).toList = Decimal.minimal n from Decimal.toList_toString n]
    exact Decimal.minimal_ne_nil n
  | negSucc n =>
    rw [toList_minus]
    exact List.cons_ne_nil _ _

end TrustedAppId.Markup
