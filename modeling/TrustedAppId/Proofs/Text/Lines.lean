import TrustedAppId.Text.Blank
/-! Cutting and trimming texts whose marks and blanks are known. -/
namespace TrustedAppId.Text

theorem splitFirst_append {mark : Char} {before : List Char} (h : mark ∉ before)
    (after : List Char) : splitFirst mark (before ++ mark :: after) = some (before, after) := by
  induction before with
  | nil => simp [splitFirst]
  | cons c before ih =>
    rw [List.mem_cons, not_or] at h
    rw [List.cons_append, splitFirst, if_neg (Ne.symm h.1), ih h.2]
    rfl

theorem splitFirst_eq_some {mark : Char} {cs before after : List Char}
    (h : splitFirst mark cs = some (before, after)) :
    cs = before ++ mark :: after ∧ mark ∉ before := by
  induction cs generalizing before with
  | nil => contradiction
  | cons c cs ih =>
    rw [splitFirst] at h
    split at h
    · next same =>
      obtain ⟨rfl, rfl⟩ := Prod.mk.inj (Option.some.inj h)
      exact ⟨congrArg (· :: cs) same, List.not_mem_nil⟩
    · next other =>
      obtain ⟨⟨before', after'⟩, split, found⟩ := Option.map_eq_some_iff.mp h
      obtain ⟨rfl, rfl⟩ := Prod.mk.inj found
      obtain ⟨rfl, without⟩ := ih split
      exact ⟨rfl, by simp [Ne.symm other, without]⟩

theorem pieces_append {line : List Char} (h : '\n' ∉ line) (rest : List Char) :
    pieces (line ++ '\n' :: rest) = (line, true) :: pieces rest := by
  induction line with
  | nil => simp [pieces]
  | cons c line ih =>
    rw [List.mem_cons, not_or] at h
    rw [List.cons_append, pieces, if_neg (Ne.symm h.1), ih h.2]

theorem lines_append {line : List Char} (h : '\n' ∉ line) (rest : List Char) :
    lines (line ++ '\n' :: rest) = closeLine (line, true) :: lines rest := by
  rw [lines, pieces_append h, List.map_cons]
  rfl

theorem pieces_eq_nil_iff {cs : List Char} : pieces cs = [] ↔ cs = [] := by
  cases cs with
  | nil => exact iff_of_true rfl rfl
  | cons c rest =>
    rw [pieces]
    split
    · simp
    · split <;> simp

/-- Behind the end of a line the pieces are those of what follows. -/
theorem pieces_append_of_ended (front rest : List Char) :
    pieces (front ++ ['\n'] ++ rest) = pieces (front ++ ['\n']) ++ pieces rest := by
  induction front with
  | nil => rfl
  | cons c front ih =>
    rw [List.cons_append, List.cons_append, pieces, pieces, ih]
    split
    · rw [List.cons_append]
    · cases parts : pieces (front ++ ['\n']) with
      | nil => exact absurd (pieces_eq_nil_iff.mp parts) (by simp)
      | cons piece more => rfl

/-- Text from a line feed on may end the last piece in front of it, but adds nothing to it. -/
theorem map_fst_pieces_prefix (text rest : List Char) :
    (pieces text).map Prod.fst <+: (pieces (text ++ '\n' :: rest)).map Prod.fst := by
  induction text with
  | nil => exact List.nil_prefix
  | cons c text ih =>
    rw [List.cons_append, pieces, pieces]
    split
    · exact List.cons_prefix_cons.mpr ⟨rfl, ih⟩
    · cases parts : pieces text with
      | nil =>
        rw [pieces_eq_nil_iff.mp parts, List.nil_append, pieces, if_pos rfl]
        exact List.prefix_append [[c]] _
      | cons piece more =>
        rw [parts] at ih
        cases longer : pieces (text ++ '\n' :: rest) with
        | nil => exact absurd (pieces_eq_nil_iff.mp longer) (by simp)
        | cons piece' more' =>
          rw [longer, List.map_cons, List.map_cons, List.cons_prefix_cons] at ih
          obtain ⟨same, later⟩ := ih
          exact List.cons_prefix_cons.mpr ⟨congrArg (c :: ·) same, later⟩

/-- A text without line feeds is one line, unless it is empty. -/
theorem lines_of_not_mem {c : Char} {line : List Char} (h : '\n' ∉ c :: line) :
    lines (c :: line) = [c :: line] := by
  have single : pieces (c :: line) = [(c :: line, false)] := by
    induction line generalizing c with
    | nil =>
      rw [List.mem_singleton] at h
      simp [pieces, Ne.symm h]
    | cons d line ih =>
      rw [List.mem_cons, not_or] at h
      rw [pieces, if_neg (Ne.symm h.1), ih h.2]
  rw [lines, single]
  rfl

theorem closeLine_of_getLast {line : List Char} {ended : Bool} (h : line.getLast? ≠ some '\r') :
    closeLine (line, ended) = line := by
  cases ended <;> simp [closeLine, h]

theorem trimLeft_cons {c : Char} (h : isBlank c = false) (rest : List Char) :
    trimLeft (c :: rest) = c :: rest := by
  rw [trimLeft, List.dropWhile_cons_of_neg (by simp [h])]

theorem trimLeft_eq_self {cs : List Char} (h : ∀ c ∈ cs, isBlank c = false) : trimLeft cs = cs := by
  cases cs with
  | nil => rfl
  | cons c cs => exact trimLeft_cons (h c List.mem_cons_self) cs

theorem length_trim_le (cs : List Char) : (trim cs).length ≤ cs.length := by
  have shorter (cs : List Char) : (trimLeft cs).length ≤ cs.length :=
    (List.dropWhile_sublist _).length_le
  calc (trim cs).length = (trimLeft (trimLeft cs).reverse).length := List.length_reverse
    _ ≤ (trimLeft cs).reverse.length := shorter _
    _ = (trimLeft cs).length := List.length_reverse
    _ ≤ cs.length := shorter cs

/-- What trimming leaves stands within the text, with nothing but white space around it. -/
theorem exists_trim_append (cs : List Char) : ∃ before after,
    cs = before ++ (trim cs ++ after) ∧ (∀ c ∈ before, isBlank c = true) ∧
      ∀ c ∈ after, isBlank c = true := by
  refine ⟨cs.takeWhile isBlank, ((trimLeft cs).reverse.takeWhile isBlank).reverse, ?_, ?_, ?_⟩
  · have right : (trimLeft cs).reverse.takeWhile isBlank ++ trimLeft (trimLeft cs).reverse =
        (trimLeft cs).reverse := List.takeWhile_append_dropWhile
    rw [trim, ← List.reverse_append, right, List.reverse_reverse]
    exact List.takeWhile_append_dropWhile.symm
  · exact List.all_eq_true.mp List.all_takeWhile
  · intro c mem
    exact List.all_eq_true.mp List.all_takeWhile c (List.mem_reverse.mp mem)

/-- A text without white space is what trimming leaves of it in any white space. -/
theorem trim_append {before core after : List Char} (blank : ∀ c ∈ before, isBlank c = true)
    (solid : ∀ c ∈ core, isBlank c = false) (blank' : ∀ c ∈ after, isBlank c = true) :
    trim (before ++ (core ++ after)) = core := by
  have dropped {gap : List Char} (only : ∀ c ∈ gap, isBlank c = true) (rest : List Char) :
      trimLeft (gap ++ rest) = trimLeft rest := List.dropWhile_append_of_pos only
  have reversed : ∀ c ∈ after.reverse, isBlank c = true := fun c mem =>
    blank' c (List.mem_reverse.mp mem)
  rw [trim, dropped blank]
  cases core with
  | nil =>
    have nothing := dropped blank' []
    rw [List.append_nil] at nothing
    rw [List.nil_append, nothing]
    rfl
  | cons c core =>
    rw [List.cons_append, trimLeft_cons (solid c List.mem_cons_self), ← List.cons_append,
      List.reverse_append, dropped reversed, trimLeft_eq_self, List.reverse_reverse]
    exact fun d mem => solid d (List.mem_reverse.mp mem)

theorem trim_eq_self {cs : List Char} (h : ∀ c ∈ cs, isBlank c = false) : trim cs = cs := by
  have trimmed := @trim_append [] cs [] nofun h nofun
  rwa [List.nil_append, List.append_nil] at trimmed

theorem trim_concat {c : Char} (blank : isBlank c = true) (cs : List Char) :
    trim (cs ++ [c]) = trim cs := by
  cases left : trimLeft cs with
  | nil =>
    have nothing : trimLeft (cs ++ [c]) = [] := by
      rw [trimLeft, List.dropWhile_append, ← trimLeft, left]
      simp [blank]
    rw [trim, trim, left, nothing]
  | cons d ds =>
    have longer : trimLeft (cs ++ [c]) = d :: ds ++ [c] := by
      rw [trimLeft, List.dropWhile_append, ← trimLeft, left]
      rfl
    have dropped : trimLeft (c :: (d :: ds).reverse) = trimLeft (d :: ds).reverse := by
      rw [trimLeft, List.dropWhile_cons_of_pos blank, ← trimLeft]
    rw [trim, trim, left, longer, List.reverse_concat, dropped]

/-- The carriage return that belongs to a line end would be trimmed as well. -/
theorem trim_closeLine (line : List Char) (ended : Bool) :
    trim (closeLine (line, ended)) = trim line := by
  by_cases last : line.getLast? = some '\r'
  · cases ended with
    | false => rfl
    | true =>
      obtain ⟨front, rfl⟩ := List.getLast?_eq_some_iff.mp last
      rw [trim_concat (by decide)]
      simp [closeLine]
  · rw [closeLine_of_getLast last]

end TrustedAppId.Text
