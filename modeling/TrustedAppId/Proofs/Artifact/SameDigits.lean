import TrustedAppId.Artifact.BuildVar
import TrustedAppId.Proofs.Artifact.Definition
import TrustedAppId.Proofs.Uuid.Groups
/-! Both artifacts carry the same digits. A header is laid out around the digits of its eleven
literals, the first five of them without leading zeros. Filled up with zeros and joined, these are
the digits of the build variable. -/
namespace TrustedAppId.Header

/-- The digits of the literals of a header. -/
structure Digits where
  timeLow : List Char
  timeMid : List Char
  timeHiAndVersion : List Char
  clockSeqHiAndReserved : List Char
  clockSeqLow : List Char
  node : List (List Char)

namespace Digits

/-- All but those of the node. -/
def leading (ds : Digits) : List (List Char) :=
  [ds.timeLow, ds.timeMid, ds.timeHiAndVersion, ds.clockSeqHiAndReserved, ds.clockSeqLow]

def all (ds : Digits) : List (List Char) := ds.leading ++ ds.node

/-- The documented layout of a header, around the digits of its literals. -/
def document (name : List Char) (ds : Digits) : List Char :=
  "#pragma once \n\n#define ".toList ++ name ++ " \x7b \\\n".toList ++
    "  0x".toList ++ ds.timeLow ++ " , 0x".toList ++ ds.timeMid ++ ", 0x".toList ++
    ds.timeHiAndVersion ++ ", \\\n".toList ++
    "  \x7b 0x".toList ++ ds.clockSeqHiAndReserved ++ ", 0x".toList ++ ds.clockSeqLow ++
    ds.node.flatMap (", 0x".toList ++ ·) ++ " \x7d \\\n".toList ++ "\x7d\n".toList

/-- How many digits of an identifier each literal stands for. -/
def widths : List Nat := [8, 4, 4, 2, 2, 2, 2, 2, 2, 2, 2]

/-- All digits behind one another, those of each literal filled up with zeros. -/
def joined (ds : Digits) : List Char :=
  (List.zipWith (fun width digits => digits.leftpad width '0') widths ds.all).flatten

def ofFields (f : Fields) : Digits where
  timeLow := Hex.minimal f.timeLow.toNat
  timeMid := Hex.minimal f.timeMid.toNat
  timeHiAndVersion := Hex.minimal f.timeHiAndVersion.toNat
  clockSeqHiAndReserved := Hex.minimal f.clockSeqHiAndReserved.toNat
  clockSeqLow := Hex.minimal f.clockSeqLow.toNat
  node := f.node.map fun b => Hex.fixed 2 b.toNat

end Digits

open Digits

/-- Eleven literals in the form in which they are written. They have the digits of the spelling, of
which the last sixteen are the last octets of `u`. -/
structure CarriesDigits (u : Uuid) (spelling : List Char) (ds : Digits) : Prop where
  count : ds.node.length = 6
  lower : ∀ digits ∈ ds.all, ∀ c ∈ digits, c ∈ Hex.lowerDigits
  leading : ∀ digits ∈ ds.leading,
    digits = ['0'] ∨ ∃ first rest, digits = first :: rest ∧ first ≠ '0'
  node : ∀ digits ∈ ds.node, digits.length = 2
  joined : ds.joined = spelling.filter (· ≠ '-')
  octets : ds.joined.drop 16 =
    Uuid.octetDigits (List.ofFn fun i : Fin 8 => Fields.octet u (8 + i))

theorem renderChars_eq_document (name : List Char) (u : Uuid) :
    renderChars name u = document name (.ofFields (.ofUuid u)) := by
  -- Only the definitions are opened here, since their equations evaluate the texts.
  delta renderChars document
  simp only [outerChars, innerChars, ofFields, literal, octetLiteral, comma,
    String.reduceToList, List.flatMap_map, List.append_assoc, List.cons_append, List.nil_append]

theorem literals_bodyText (f : Fields) :
    literals (bodyText f tailText) = (ofFields f).all.map (Literal.mk 'x') := by
  obtain ⟨_, _, _, _, _, _, _, _, -, -, -, node⟩ := f.exists_octets
  simp only [bodyText, outerText, outerChars, innerText, tailText, comma, ofFields, all, leading,
    node, List.flatMap_cons, List.flatMap_nil, List.append_assoc, List.cons_append,
    List.nil_append, List.map_cons, List.map_nil]
  simp (disch := decide) only [literals_cons, literals_literal, literals_octetLiteral]
  rfl

theorem joined_ofFields (f : Fields) : (ofFields f).joined = f.toUuid.digits := by
  obtain ⟨_, _, _, _, _, _, _, _, same, first, second, node⟩ := f.exists_octets
  have octet (b : BitVec 8) : (Hex.minimal b.toNat).leftpad 2 '0' = Hex.fixed 2 b.toNat :=
    Hex.leftpad_minimal (by decide) b.isLt
  have full (b : BitVec 8) : (Hex.fixed 2 b.toNat).leftpad 2 '0' = Hex.fixed 2 b.toNat := by
    rw [List.leftpad, Hex.length_fixed]
    rfl
  have short (b : BitVec 16) : (Hex.minimal b.toNat).leftpad 4 '0' = Hex.fixed 4 b.toNat :=
    Hex.leftpad_minimal (by decide) b.isLt
  have long (b : BitVec 32) : (Hex.minimal b.toNat).leftpad 8 '0' = Hex.fixed 8 b.toNat :=
    Hex.leftpad_minimal (by decide) b.isLt
  rw [Uuid.digits_toUuid, same]
  simp only [Digits.joined, widths, all, leading, ofFields, first, second, node, List.map_cons,
    List.map_nil, List.cons_append, List.nil_append, List.zipWith_cons_cons, List.flatten_cons,
    long, short, octet, full, List.append_assoc]
  rfl

theorem lower_ofFields (f : Fields) : ∀ digits ∈ (ofFields f).all, ∀ c ∈ digits,
    c ∈ Hex.lowerDigits := by
  have minimal (n : Nat) : ∀ c ∈ Hex.minimal n, c ∈ Hex.lowerDigits := fun _ =>
    Hex.mem_lowerDigits_of_mem_minimal
  simp only [all, leading, ofFields, List.forall_mem_append, List.forall_mem_cons]
  refine ⟨⟨minimal _, minimal _, minimal _, minimal _, minimal _, nofun⟩, ?_⟩
  intro digits mem
  obtain ⟨b, -, rfl⟩ := List.mem_map.mp mem
  exact fun _ => Hex.mem_lowerDigits_of_mem_fixed

theorem carriesDigits_ofFields (u : Uuid) : CarriesDigits u u.chars (.ofFields (.ofUuid u)) where
  count := by
    obtain ⟨_, _, _, _, _, _, _, _, -, -, -, node⟩ := (Fields.ofUuid u).exists_octets
    rw [ofFields, List.length_map, node]
    rfl
  lower := lower_ofFields _
  leading := by
    simp only [leading, ofFields, List.forall_mem_cons]
    exact ⟨Hex.minimal_cases _, Hex.minimal_cases _, Hex.minimal_cases _, Hex.minimal_cases _,
      Hex.minimal_cases _, nofun⟩
  node := by
    intro digits mem
    obtain ⟨b, -, rfl⟩ := List.mem_map.mp mem
    exact Hex.length_fixed 2 _
  joined := by rw [joined_ofFields, Fields.toUuid_ofUuid, u.filter_chars]
  octets := by
    have before : (Hex.fixed 8 (Fields.ofUuid u).timeLow.toNat ++
        Hex.fixed 4 (Fields.ofUuid u).timeMid.toNat ++
        Hex.fixed 4 (Fields.ofUuid u).timeHiAndVersion.toNat).length = 16 := by simp
    rw [joined_ofFields, Fields.toUuid_ofUuid, u.digits_eq, List.drop_left' before]
    rfl

/-- A header is laid out around the digits of its eleven literals, the only ones behind the brace of
its definition. They are those of a build variable of the same identifier. -/
theorem render_sameDigits {name : String} (valid : Identifier.isName name.toList = true)
    (variableName : String) (u : Uuid) : ∃ ds body spelling,
    (render name u).toList = document name.toList ds ∧
    FirstDefinition true (render name u).toList name.toList body ∧
    literals body = ds.all.map (Literal.mk 'x') ∧
    (BuildVar.render variableName u).toList = variableName.toList ++ '=' :: spelling ++ ['\n'] ∧
    CarriesDigits u spelling ds := by
  have chars : (render name u).toList = renderChars name.toList u := String.toList_ofList
  have found := findDefine_opened valid (bodyText (.ofUuid u) tailText)
  rw [← renderChars_eq, ← chars] at found
  exact ⟨.ofFields (.ofUuid u), bodyText (.ofUuid u) tailText, u.chars,
    chars.trans (renderChars_eq_document _ u), findDefine_eq_some_iff.mp found,
    literals_bodyText _, String.toList_ofList, carriesDigits_ofFields u⟩

/-- Every field of this identifier but one has leading zeros. -/
def hollowId : Uuid := ⟨0x00000a3f000540008001000500000000⟩

/-- A name in which a literal could be read. -/
theorem render_sameDigits_hollowId : Identifier.isName "A0x1".toList = true ∧
    ∃ ds body spelling, (render "A0x1" hollowId).toList = document "A0x1".toList ds ∧
    FirstDefinition true (render "A0x1" hollowId).toList "A0x1".toList body ∧
    literals body = ds.all.map (Literal.mk 'x') ∧
    (BuildVar.render "TA_UUID" hollowId).toList = "TA_UUID".toList ++ '=' :: spelling ++ ['\n'] ∧
    CarriesDigits hollowId spelling ds := by
  have valid : Identifier.isName "A0x1".toList = true := by decide
  exact ⟨valid, @render_sameDigits "A0x1" valid "TA_UUID" hollowId⟩

end TrustedAppId.Header
