import OracleCatalog.Definition.Sequence
import OracleCatalog.Proofs.Literal
import OracleCatalog.Proofs.Success
import OracleCatalog.Proofs.Text.Case
import OracleCatalog.Proofs.Text.Numeral

/-!
# Blocks that create and drop sequences

A block holds two literals, the name of a sequence and a command, and both are put between
apostrophes as they are. So the block reads as it was meant exactly when neither the name nor a
command that is given has an apostrophe: any other one ends a literal early, and what follows it is
code.
-/

namespace OracleCatalog.Definition

open OracleCatalog.Text OracleCatalog.Literal

/-! ### The parts of a block -/

def blockHead : String := lines [
  "declare",
  "    ex NUMBER;",
  "begin",
  "    SELECT count(*) INTO ex FROM user_sequences WHERE sequence_name = "]

def blockTest (count : Nat) : String := lines [
  ";",
  "    if (ex = " ++ natText count ++ ") then",
  "        execute immediate "]

def blockEnd : String := lines [";", "    end if;", "end;"]

/-- How a block is meant to read: its name is compared and its command is executed. -/
def blockParts (name command : String) (count : Nat) : List Part := [
  .code blockHead.toList, .literal name.toList, .code (blockTest count).toList,
  .literal command.toList, .code blockEnd.toList]

theorem sequenceBlock_eq (name command : String) (count : Nat) :
    sequenceBlock name command count = blockHead ++ "'" ++ name ++ "'" ++ blockTest count ++ "'" ++
      command ++ "'" ++ blockEnd := by
  have hname : "    SELECT count(*) INTO ex FROM user_sequences WHERE sequence_name = '" =
      "    SELECT count(*) INTO ex FROM user_sequences WHERE sequence_name = " ++ "'" :=
    eq_append_chars rfl rfl rfl
  have hcommand : "        execute immediate '" = "        execute immediate " ++ "'" :=
    eq_append_chars rfl rfl rfl
  have hend : "';" = "'" ++ ";" := eq_append_chars rfl rfl rfl
  unfold sequenceBlock blockHead blockTest blockEnd lines join
  rw [hname, hcommand, hend]
  simp only [String.intercalate_cons_cons, String.intercalate_singleton, String.append_assoc]

theorem toList_sequenceBlock (name command : String) (count : Nat) :
    (sequenceBlock name command count).toList =
      blockHead.toList ++ '\'' :: (name.toList ++ '\'' :: ((blockTest count).toList ++
        '\'' :: (command.toList ++ '\'' :: blockEnd.toList))) := by
  have hquote : "'".toList = ['\''] := rfl
  rw [sequenceBlock_eq]
  simp only [String.toList_append, hquote, List.append_assoc, List.cons_append, List.nil_append]

theorem apostrophe_not_mem_natText (n : Nat) : '\'' ∉ (natText n).toList := by
  have hdigit : ∀ d < 10, digitChar d ≠ '\'' := by decide
  obtain ⟨ds, hds, hdigits⟩ := exists_natDigits n
  unfold natText
  rw [String.toList_ofList, hdigits]
  intro hmem
  obtain ⟨d, hd, heq⟩ := List.mem_map.1 hmem
  exact hdigit d (hds.digits d hd) heq

theorem apostrophe_not_mem_blockHead : '\'' ∉ blockHead.toList := by
  refine not_mem_join (by decide) fun line hline => ?_
  simp only [List.mem_cons, List.not_mem_nil, or_false] at hline
  rcases hline with rfl | rfl | rfl | rfl <;> exact not_mem_chars rfl (by decide)

theorem apostrophe_not_mem_blockTest (count : Nat) : '\'' ∉ (blockTest count).toList := by
  refine not_mem_join (by decide) fun line hline => ?_
  simp only [List.mem_cons, List.not_mem_nil, or_false] at hline
  rcases hline with rfl | rfl | rfl
  · exact not_mem_chars rfl (by decide)
  · exact not_mem_append (not_mem_append (not_mem_chars rfl (by decide))
      (apostrophe_not_mem_natText count)) (not_mem_chars rfl (by decide))
  · exact not_mem_chars rfl (by decide)

theorem apostrophe_not_mem_blockEnd : '\'' ∉ blockEnd.toList := by decide

theorem head?_blockTest (count : Nat) (cs : List Char) :
    ((blockTest count).toList ++ cs).head? ≠ some '\'' := by
  unfold blockTest lines
  rw [toList_join_cons]
  simp

theorem head?_blockEnd : blockEnd.toList.head? ≠ some '\'' := by decide

theorem parts?_sequenceBlock_iff (name command : String) (count : Nat) :
    parts? (sequenceBlock name command count).toList = some (blockParts name command count) ↔
      '\'' ∉ name.toList ∧ '\'' ∉ command.toList := by
  unfold blockParts
  rw [toList_sequenceBlock,
    parts?_bare_iff apostrophe_not_mem_blockHead (head?_blockTest count _),
    parts?_bare_iff (apostrophe_not_mem_blockTest count) head?_blockEnd,
    parts?_code apostrophe_not_mem_blockEnd, and_iff_left rfl]

/-! ### Commands -/

/-- The command that a block executes: the given one, unless that is missing or empty. -/
def commandOr (derived : String) : Option String → String
  | some command => if command = "" then derived else command
  | none => derived

theorem orElse_ofText? (given : Option String) (derived : String) :
    (Value.ofText? given).orElse (.text derived) = .text (commandOr derived given) := by
  cases given with
  | none => rfl
  | some command =>
    by_cases h : command = ""
    · rw [h]
      rfl
    · have htruthy : (Value.text command).truthy = true := bne_iff_ne.2 h
      show (if (Value.text command).truthy then Value.text command else .text derived) = _
      rw [if_pos htruthy, commandOr, if_neg h]

theorem sequenceBlockFor_eq (name : String) (given : Option String) (default : Value → String)
    (count : Nat) : sequenceBlockFor (.text name) (.ofText? given) default count =
      .ok (sequenceBlock (upper name) (commandOr (default (.text (upper name))) given) count) := by
  show Except.ok (sequenceBlock (upper name) ((Value.ofText? given).orElse
    (.text (default (.text (upper name))))).toText count) = _
  rw [orElse_ofText?]
  rfl

/-- A name and a given command without apostrophes. -/
def HasNoApostrophe (name : String) (given : Option String) : Prop :=
  '\'' ∉ name.toList ∧ ∀ command ∈ given, '\'' ∉ command.toList

/-- A command that is derived from a name has an apostrophe only if the name has. -/
theorem hasNoApostrophe_iff {name derived : String}
    (hderived : '\'' ∈ derived.toList → '\'' ∈ (upper name).toList) (given : Option String) :
    '\'' ∉ (upper name).toList ∧ '\'' ∉ (commandOr derived given).toList ↔
      HasNoApostrophe name given := by
  have hown : IsOwnCapital '\'' := isOwnCapital_of_lt (by decide) (by decide)
  unfold HasNoApostrophe
  rw [hown.mem_upper_iff] at hderived ⊢
  refine and_congr_right fun hname => ?_
  have hplain : '\'' ∉ derived.toList := fun h => hname (hderived h)
  cases given with
  | none => simp [commandOr, hplain]
  | some command =>
    by_cases h : command = ""
    · simp [commandOr, h, hplain]
    · simp [commandOr, h]

theorem apostrophe_createSequence {name : String}
    (h : '\'' ∈ (createSequence (.text name)).toList) : '\'' ∈ name.toList := by
  unfold createSequence at h
  rw [String.toList_append, String.toList_append, List.mem_append, List.mem_append] at h
  rcases h with (h | h) | h
  · exact absurd h (not_mem_chars rfl (by decide))
  · exact h
  · exact absurd h (not_mem_chars rfl (by decide))

theorem apostrophe_dropSequence {name : String}
    (h : '\'' ∈ (dropSequence (.text name)).toList) : '\'' ∈ name.toList := by
  unfold dropSequence at h
  rw [String.toList_append, List.mem_append] at h
  exact h.resolve_left (not_mem_chars rfl (by decide))

/-- Both blocks are always written, and each reads as its code with the name in capitals and the
command as literals exactly when neither the name nor a given command has an apostrophe. -/
theorem sequence_blocks_read_iff (name : String) (given : Option String) :
    (∃ block, createSequenceIfAbsent (.text name) (.ofText? given) = .ok block ∧
      (parts? block.toList = some (blockParts (upper name)
          (commandOr (createSequence (.text (upper name))) given) 0) ↔
        HasNoApostrophe name given)) ∧
    ∃ block, dropSequenceIfPresent (.text name) (.ofText? given) = .ok block ∧
      (parts? block.toList = some (blockParts (upper name)
          (commandOr (dropSequence (.text (upper name))) given) 1) ↔
        HasNoApostrophe name given) := by
  refine ⟨⟨_, sequenceBlockFor_eq name given createSequence 0, ?_⟩,
    ⟨_, sequenceBlockFor_eq name given dropSequence 1, ?_⟩⟩
  · rw [parts?_sequenceBlock_iff, hasNoApostrophe_iff apostrophe_createSequence]
  · rw [parts?_sequenceBlock_iff, hasNoApostrophe_iff apostrophe_dropSequence]

/-- What is executed has become a part of a literal, and the command is code. -/
theorem apostrophe_ends_literal :
    ∃ block, createSequenceIfAbsent (.text "o'brien") .null = .ok block ∧
      parts? block.toList = some [.code blockHead.toList, .literal "O".toList, .code "BRIEN".toList,
        .literal (blockTest 0).toList, .code "CREATE SEQUENCE O".toList,
        .literal "BRIEN START WITH 1 MINVALUE 1 INCREMENT BY 1 CACHE 20".toList,
        .code blockEnd.toList] := by
  have hupper : upper "o'brien" = "O'BRIEN" := by decide +kernel
  have hname : "O'BRIEN".toList = "O".toList ++ '\'' :: "BRIEN".toList := by decide
  have hfront : "CREATE SEQUENCE O" = "CREATE SEQUENCE " ++ "O" := eq_append_chars rfl rfl rfl
  have hback : "BRIEN START WITH 1 MINVALUE 1 INCREMENT BY 1 CACHE 20" =
      "BRIEN" ++ " START WITH 1 MINVALUE 1 INCREMENT BY 1 CACHE 20" := eq_append_chars rfl rfl rfl
  have hcommand : (commandOr (createSequence (.text "O'BRIEN")) none).toList =
      "CREATE SEQUENCE O".toList ++
        '\'' :: "BRIEN START WITH 1 MINVALUE 1 INCREMENT BY 1 CACHE 20".toList := by
    unfold commandOr createSequence
    simp only [Value.toText_text, hfront, hback, String.toList_append, hname, List.append_assoc,
      List.cons_append]
  have hplain : '\'' ∉ "BRIEN START WITH 1 MINVALUE 1 INCREMENT BY 1 CACHE 20".toList :=
    not_mem_chars rfl (by decide)
  refine ⟨_, sequenceBlockFor_eq "o'brien" none createSequence 0, ?_⟩
  rw [hupper, toList_sequenceBlock, hname, hcommand]
  simp only [List.append_assoc, List.cons_append]
  rw [parts?_bare apostrophe_not_mem_blockHead (by decide) (by simp),
    parts?_bare (by decide) (apostrophe_not_mem_blockTest 0) (by simp),
    parts?_bare (not_mem_chars rfl (by decide)) hplain head?_blockEnd,
    parts?_code apostrophe_not_mem_blockEnd]
  rfl

end OracleCatalog.Definition
