/-
# The environment file

A server reads its configuration from the environment, and the environment from a file: one
assignment a line, with an optional word in front, blanks anywhere and quotes around the value. A
variable that is set already keeps its value.
-/

import ClusterChat.Data.Bytes
import ClusterChat.Data.JsonGrammar
import ClusterChat.Data.Search
import ClusterChat.Data.Trim
import Mathlib.Logic.Function.Basic

namespace ClusterChat

namespace EnvFile

open JsonGrammar

/-! ### The loader -/

/-- `isspace` of the C locale. -/
def isspace (c : UInt8) : Bool := c = 32 || (9 ≤ c && c ≤ 13)

def trimCopy (s : Bytes) : Bytes := trim isspace s

def newline : UInt8 := 10

def equals : UInt8 := 61

def hash : UInt8 := 35

/-- `"export "`. -/
def exportWord : Bytes := letters "export "

/-- The lines that `getline` reads: behind the last newline there is one only if there is
something. -/
def getlines : Bytes → List Bytes
  | [] => []
  | c :: rest =>
    if c = newline then [] :: getlines rest
    else
      match getlines rest with
      | [] => [[c]]
      | line :: lines => (c :: line) :: lines

/-- The same mark at both ends. -/
def Enclosed (mark : UInt8) (value : Bytes) : Prop :=
  value.head? = some mark ∧ value.getLast? = some mark

instance (mark : UInt8) (value : Bytes) : Decidable (Enclosed mark value) :=
  inferInstanceAs (Decidable (_ ∧ _))

/-- A value without the quotes around it. -/
def unquote (value : Bytes) : Bytes :=
  if 2 ≤ value.length ∧ (Enclosed 34 value ∨ Enclosed 39 value) then
    (value.drop 1).take (value.length - 2)
  else value

/-- What is read from a trimmed line behind the word `export`: the key and the value. -/
def splitAssignment (trimmed : Bytes) : Option (Bytes × Bytes) :=
  match trimmed.findIdx? (· = equals) with
  | none => none
  | some pos =>
    let key := trimCopy (trimmed.take pos)
    let value := trimCopy (trimmed.drop (pos + 1))
    if key = [] then none else some (key, unquote value)

/-- The body of the loop over the lines, up to `setenv`. -/
def readLine (line : Bytes) : Option (Bytes × Bytes) :=
  let trimmed := trimCopy line
  if trimmed = [] ∨ trimmed.head? = some hash then none
  else if exportWord <+: trimmed then splitAssignment (trimCopy (trimmed.drop 7))
  else splitAssignment trimmed

/-- The variables of a process. -/
abbrev Environment := Bytes → Option Bytes

/-- `setenv(name, value, 0)`: it fails for a name that is none, and changes no variable that is
set. -/
def setenv (name value : Bytes) (environment : Environment) : Environment :=
  if name = [] ∨ equals ∈ name ∨ (environment name).isSome then environment
  else Function.update environment name (some value)

/-- One turn of the loop. -/
def loadLine (environment : Environment) (line : Bytes) : Environment :=
  match readLine line with
  | none => environment
  | some (key, value) => setenv (cStr key) (cStr value) environment

/-- A process, with the `once_flag` of the loader. -/
structure Process where
  once : Bool
  environment : Environment

/-- `loadEnvFile`; the file is none where it cannot be opened. -/
def loadEnvFile (file : Option Bytes) (process : Process) : Process :=
  if process.once then process
  else
    match file with
    | none => ⟨true, process.environment⟩
    | some text => ⟨true, (getlines text).foldl loadLine process.environment⟩

/-! ### Lines of the file -/

/-- Any blanks. -/
abbrev Blanks := {text : Bytes // ∀ c ∈ text, isspace c = true}

/-- The bytes of identifiers, digits apart. -/
def isLetter (c : UInt8) : Bool := (65 ≤ c && c ≤ 90) || (97 ≤ c && c ≤ 122) || c = 95

def isLetterOrDigit (c : UInt8) : Bool := isLetter c || (48 ≤ c && c ≤ 57)

/-- An identifier. -/
structure Identifier where
  text : Bytes
  first : ∃ c ∈ text.head?, isLetter c = true
  all : ∀ c ∈ text, isLetterOrDigit c = true

/-- A value as it may be written. -/
inductive EnvValue
  | quoted (mark : UInt8) (isMark : mark = 34 ∨ mark = 39) (value : Bytes) (free : nul ∉ value)
  | plain (value : Bytes) (trimmed : Trimmed isspace value)
      (bare : ¬(2 ≤ value.length ∧ (Enclosed 34 value ∨ Enclosed 39 value))) (free : nul ∉ value)

/-- The value that is meant. -/
def EnvValue.value : EnvValue → Bytes
  | quoted _ _ value _ => value
  | plain value _ _ _ => value

/-- How it is written. -/
def EnvValue.text : EnvValue → Bytes
  | quoted mark _ value _ => mark :: (value ++ [mark])
  | plain value _ _ _ => value

/-- An assignment, with the blanks around its parts; `exported` are those behind the word `export`
and its space, where it is there. -/
structure Assignment where
  lead : Blanks
  exported : Option Blanks
  key : Identifier
  beforeEquals : Blanks
  afterEquals : Blanks
  value : EnvValue
  trail : Blanks

namespace Assignment

/-- The word `export` in front of a key. -/
def word : Option Blanks → Bytes
  | none => []
  | some blanks => exportWord ++ blanks.val

/-- The part from the key on. -/
def fromKey (line : Assignment) : Bytes :=
  line.key.text ++ (line.beforeEquals.val ++ equals ::
    (line.afterEquals.val ++ (line.value.text ++ line.trail.val)))

def text (line : Assignment) : Bytes :=
  line.lead.val ++ (word line.exported ++ line.fromKey)

/-- The key itself is taken for the word in front of a key. -/
def Shadowed (line : Assignment) : Prop :=
  line.exported = none ∧ line.key.text = letters "export" ∧
    line.beforeEquals.val.head? = some 32

instance (line : Assignment) : Decidable line.Shadowed :=
  have : Decidable (line.exported = none) := decidable_of_iff _ Option.isNone_iff_eq_none
  inferInstanceAs (Decidable (_ ∧ _ ∧ _))

end Assignment

/-- A line that the loader is meant for. -/
inductive EnvLine
  | blank (blanks : Blanks)
  | comment (blanks : Blanks) (text : Bytes)
  | other (text : Bytes) (free : equals ∉ text)
  | assignment (line : Assignment)

namespace EnvLine

def text : EnvLine → Bytes
  | blank blanks => blanks.val
  | comment blanks text => blanks.val ++ hash :: text
  | other text _ => text
  | assignment line => line.text

def assignment? : EnvLine → Option Assignment
  | assignment line => some line
  | _ => none

end EnvLine

/-- The value of the first assignment to a variable. -/
def firstValue (assignments : List Assignment) (name : Bytes) : Option Bytes :=
  assignments.findSome? fun line => if line.key.text = name then some line.value.value else none

/-! ### Reading a line back -/

theorem not_isspace {c : UInt8} (part : isLetterOrDigit c = true) : ¬isspace c = true := by
  intro blank
  simp only [isspace, isLetterOrDigit, isLetter, Bool.or_eq_true, Bool.and_eq_true,
    decide_eq_true_eq, UInt8.le_iff_toNat_le, ← UInt8.toNat_inj] at part blank
  simp at part blank
  omega

theorem Identifier.ne_nil (key : Identifier) : key.text ≠ [] := by
  obtain ⟨c, first, -⟩ := key.first
  intro empty
  rw [empty] at first
  cases first

theorem Identifier.trimmed (key : Identifier) : Trimmed isspace key.text where
  head first listed := not_isspace (key.all first (List.mem_of_mem_head? listed))
  last final listed := not_isspace (key.all final (List.mem_of_mem_getLast? listed))

/-- What is no letter and no digit is not in a key. -/
theorem Identifier.not_mem (key : Identifier) {c : UInt8} (other : ¬isLetterOrDigit c = true) :
    c ∉ key.text := fun listed => other (key.all c listed)

theorem EnvValue.trimmed (value : EnvValue) : Trimmed isspace value.text := by
  cases value with
  | quoted mark isMark value free =>
    have visible : ¬isspace mark = true := by rcases isMark with rfl | rfl <;> decide
    constructor
    · rintro first ⟨⟩
      exact visible
    · intro final listed
      rw [EnvValue.text, ← List.cons_append, List.getLast?_concat] at listed
      cases listed
      exact visible
  | plain value trimmed bare free => exact trimmed

/-- The quotes that were put around a value are taken off, and no others. -/
theorem unquote_text (value : EnvValue) : unquote value.text = value.value := by
  cases value with
  | quoted mark isMark value free =>
    have enclosed : Enclosed mark (mark :: (value ++ [mark])) := by
      refine ⟨rfl, ?_⟩
      rw [← List.cons_append, List.getLast?_concat]
    have length : (mark :: (value ++ [mark])).length = value.length + 2 := by simp
    have quoted : 2 ≤ (mark :: (value ++ [mark])).length ∧
        (Enclosed 34 (mark :: (value ++ [mark])) ∨ Enclosed 39 (mark :: (value ++ [mark]))) := by
      refine ⟨by omega, ?_⟩
      rcases isMark with rfl | rfl
      · exact Or.inl enclosed
      · exact Or.inr enclosed
    rw [EnvValue.text, unquote, if_pos quoted, length, Nat.add_sub_cancel]
    exact List.take_left
  | plain value trimmed bare free => exact if_neg bare

theorem EnvValue.free (value : EnvValue) : nul ∉ value.value := by
  cases value with
  | quoted mark isMark value free => exact free
  | plain value trimmed bare free => exact free

theorem splitAssignment_none {trimmed : Bytes} (free : equals ∉ trimmed) :
    splitAssignment trimmed = none := by
  rw [splitAssignment, findIdx?_of_notMem free]

/-- A line from the key on is split at the first `=`, since there is none in a key. -/
theorem splitAssignment_key {key blanks rest : Bytes} (trimmed : Trimmed isspace key)
    (free : equals ∉ key) (all : ∀ c ∈ blanks, isspace c = true) :
    splitAssignment (key ++ (blanks ++ equals :: rest)) =
      if key = [] then none else some (key, unquote (trimCopy rest)) := by
  have free' : equals ∉ key ++ blanks := by
    intro listed
    rcases List.mem_append.mp listed with inKey | inBlanks
    · exact free inKey
    · exact absurd (all equals inBlanks) (by decide)
  have whole : trimCopy (key ++ blanks) = key := trimmed.trim_eq (List.forall_mem_nil _) all
  have back : (key ++ blanks ++ equals :: rest).drop ((key ++ blanks).length + 1) = rest := by
    rw [← List.drop_drop, List.drop_left]
    rfl
  rw [← List.append_assoc, splitAssignment, findIdx?_behind free']
  simp only [List.take_left, whole, back]

/-- A line begins with the word `export` and a space without its being there just if it is
shadowed. -/
theorem exportWord_prefix_iff (line : Assignment) (rest : Bytes) :
    exportWord <+: line.key.text ++ (line.beforeEquals.val ++ equals :: rest) ↔
      line.key.text = letters "export" ∧ line.beforeEquals.val.head? = some 32 := by
  constructor
  · rintro ⟨more, same⟩
    -- the identifier at the front of both sides
    have front := congrArg (List.takeWhile isLetterOrDigit) same
    have left : (exportWord ++ more).takeWhile isLetterOrDigit = letters "export" := rfl
    have behind : (line.beforeEquals.val ++ equals :: rest).takeWhile isLetterOrDigit = [] := by
      obtain ⟨blanks, all⟩ := line.beforeEquals
      cases blanks with
      | nil => rfl
      | cons blank blanks =>
        apply List.takeWhile_cons_of_neg
        exact fun part => not_isspace part (all blank List.mem_cons_self)
    rw [left, List.takeWhile_append_of_pos line.key.all, behind, List.append_nil] at front
    refine ⟨front.symm, ?_⟩
    have split : letters "export" ++ (32 :: more) =
        letters "export" ++ (line.beforeEquals.val ++ equals :: rest) := by
      rw [← front] at same
      exact same
    have after := congrArg List.head? (List.append_cancel_left split)
    cases blanks : line.beforeEquals.val with
    | nil =>
      rw [blanks] at after
      cases after
    | cons blank more =>
      rw [blanks] at after
      exact after.symm
  · rintro ⟨key, space⟩
    obtain ⟨more, blanks⟩ := List.head?_eq_some_iff.mp space
    rw [key, blanks]
    exact ⟨more ++ equals :: rest, rfl⟩

theorem mem_of_mem_trimCopy {text : Bytes} {c : UInt8} (listed : c ∈ trimCopy text) : c ∈ text :=
  (List.dropWhile_sublist isspace).subset ((List.rdropWhile_prefix isspace _).subset listed)

theorem readLine_blank (blanks : Blanks) : readLine blanks.val = none := by
  have empty : trimCopy blanks.val = [] := by
    apply List.rdropWhile_eq_nil_iff.mpr
    exact fun c listed => blanks.property c ((List.dropWhile_sublist isspace).subset listed)
  rw [readLine, if_pos (Or.inl empty)]

theorem readLine_comment (blanks : Blanks) (text : Bytes) :
    readLine (blanks.val ++ hash :: text) = none := by
  have mark : Trimmed isspace [hash] := ⟨by rintro _ ⟨⟩; decide, by rintro _ ⟨⟩; decide⟩
  have trimmed : trimCopy (blanks.val ++ hash :: text) = hash :: text.rdropWhile isspace :=
    mark.trim_append (List.cons_ne_nil _ _) blanks.property text
  rw [readLine, trimmed]
  exact if_pos (Or.inr rfl)

/-- Where there is no `=` in a line, none is found whatever is taken off it. -/
theorem readLine_other {text : Bytes} (free : equals ∉ text) : readLine text = none := by
  have free' : equals ∉ trimCopy text := fun listed => free (mem_of_mem_trimCopy listed)
  rw [readLine]
  split
  · rfl
  · split
    · apply splitAssignment_none
      exact fun listed => free' (List.mem_of_mem_drop (mem_of_mem_trimCopy listed))
    · exact splitAssignment_none free'

/-- The front of an assignment up to its `=`, from the key on. -/
theorem trimmed_front (line : Assignment) :
    Trimmed isspace (line.key.text ++ (line.beforeEquals.val ++ [equals])) where
  head first listed := by
    rw [List.head?_append_of_ne_nil _ line.key.ne_nil] at listed
    exact line.key.trimmed.head first listed
  last final listed := by
    rw [← List.append_assoc, List.getLast?_concat] at listed
    cases listed
    decide

/-- What is left of the part behind the `=` when the line is trimmed. -/
def Assignment.tail (line : Assignment) : Bytes :=
  (line.afterEquals.val ++ (line.value.text ++ line.trail.val)).rdropWhile isspace

/-- What is left of the part from the key on. -/
def Assignment.rest (line : Assignment) : Bytes :=
  line.key.text ++ (line.beforeEquals.val ++ equals :: line.tail)

theorem Assignment.head?_rest (line : Assignment) :
    ∃ c, line.rest.head? = some c ∧ isLetter c = true := by
  obtain ⟨c, first, letter⟩ := line.key.first
  refine ⟨c, ?_, letter⟩
  rw [rest, List.head?_append_of_ne_nil _ line.key.ne_nil]
  exact first

/-- Only the end of a line is lost when what is in front of its `=` is no blank. -/
theorem trim_fromKey (line : Assignment) {front : Bytes} (all : ∀ c ∈ front, isspace c = true)
    {word : Bytes} (first : ∀ c ∈ word.head?, ¬isspace c = true) :
    trimCopy (front ++ (word ++ line.fromKey)) = word ++ line.rest := by
  have nonempty : word ++ (line.key.text ++ (line.beforeEquals.val ++ [equals])) ≠ [] := by
    rw [← List.append_assoc, ← List.append_assoc]
    exact List.concat_ne_nil _ _
  have whole :
      Trimmed isspace (word ++ (line.key.text ++ (line.beforeEquals.val ++ [equals]))) := by
    constructor
    · cases word with
      | nil => exact (trimmed_front line).head
      | cons c more => exact first
    · intro final listed
      rw [← List.append_assoc, ← List.append_assoc, List.getLast?_concat] at listed
      cases listed
      decide
  have trimmed := whole.trim_append nonempty all
    (line.afterEquals.val ++ (line.value.text ++ line.trail.val))
  simp only [List.append_assoc, List.singleton_append] at trimmed
  exact trimmed

/-- Behind the word `export` the line is trimmed once more. -/
theorem trim_rest (line : Assignment) (blanks : Blanks) :
    trimCopy (blanks.val ++ line.rest) = line.rest := by
  have nonempty : line.key.text ++ (line.beforeEquals.val ++ [equals]) ≠ [] := by
    rw [← List.append_assoc]
    exact List.concat_ne_nil _ _
  have trimmed := (trimmed_front line).trim_append nonempty blanks.property line.tail
  rw [Assignment.tail, List.rdropWhile_idempotent, ← Assignment.tail] at trimmed
  simp only [List.append_assoc, List.singleton_append] at trimmed
  exact trimmed

theorem splitAssignment_rest (line : Assignment) :
    splitAssignment line.rest = some (line.key.text, line.value.value) := by
  have value : trimCopy line.tail = line.value.text :=
    line.value.trimmed.trim_rdropWhile line.afterEquals.property line.trail.property
  have free : equals ∉ line.key.text := line.key.not_mem (by decide)
  rw [Assignment.rest, splitAssignment_key line.key.trimmed free line.beforeEquals.property,
    if_neg line.key.ne_nil, value, unquote_text]

/-- With the word in front of the key. -/
theorem readLine_exported {line : Assignment} {blanks : Blanks}
    (exported : line.exported = some blanks) :
    readLine line.text = some (line.key.text, line.value.value) := by
  have trimmed : trimCopy line.text = exportWord ++ blanks.val ++ line.rest := by
    rw [Assignment.text, exported]
    apply trim_fromKey line line.lead.property
    rintro c ⟨⟩
    decide
  have nonblank : ¬(exportWord ++ blanks.val ++ line.rest = [] ∨
      (exportWord ++ blanks.val ++ line.rest).head? = some hash) := by
    rintro (empty | mark)
    · cases empty
    · cases mark
  have marked : exportWord <+: exportWord ++ blanks.val ++ line.rest := by
    rw [List.append_assoc]
    exact List.prefix_append _ _
  have behind : (exportWord ++ blanks.val ++ line.rest).drop 7 = blanks.val ++ line.rest := rfl
  rw [readLine, trimmed]
  simp only [if_neg nonblank, if_pos marked, behind, trim_rest, splitAssignment_rest]

/-- Without it, a shadowed key is lost with what is taken for the word. -/
theorem readLine_bare {line : Assignment} (bare : line.exported = none) :
    readLine line.text =
      if line.Shadowed then none else some (line.key.text, line.value.value) := by
  obtain ⟨c, first, letter⟩ := line.head?_rest
  have trimmed : trimCopy line.text = line.rest := by
    rw [Assignment.text, bare]
    exact trim_fromKey line line.lead.property (by rintro c ⟨⟩)
  have nonblank : ¬(line.rest = [] ∨ line.rest.head? = some hash) := by
    rw [first]
    rintro (empty | mark)
    · rw [empty] at first
      cases first
    · cases mark
      cases letter
  have prefixed : exportWord <+: line.rest ↔ line.Shadowed :=
    (exportWord_prefix_iff line line.tail).trans (and_iff_right bare).symm
  rw [readLine, trimmed]
  by_cases shadowed : line.Shadowed
  · -- what is left begins with the `=`
    obtain ⟨key, space⟩ := shadowed.2
    obtain ⟨more, blanks⟩ := List.head?_eq_some_iff.mp space
    have all : ∀ c ∈ more, isspace c = true := fun c listed =>
      line.beforeEquals.property c (blanks ▸ List.mem_cons_of_mem 32 listed)
    have mark : Trimmed isspace [equals] := ⟨by rintro _ ⟨⟩; decide, by rintro _ ⟨⟩; decide⟩
    have behind : line.rest.drop 7 = more ++ ([equals] ++ line.tail) := by
      rw [Assignment.rest, key, blanks]
      rfl
    have left : trimCopy (line.rest.drop 7) = [equals] ++ line.tail.rdropWhile isspace := by
      rw [behind]
      exact mark.trim_append (List.cons_ne_nil _ _) all line.tail
    simp only [if_neg nonblank, if_pos (prefixed.mpr shadowed), if_pos shadowed, left]
    rfl
  · simp only [if_neg nonblank, if_neg (mt prefixed.mp shadowed), if_neg shadowed,
      splitAssignment_rest]

theorem readLine_eq (line : EnvLine) :
    readLine line.text = (line.assignment?.filter fun line => ¬line.Shadowed).map
      fun line => (line.key.text, line.value.value) := by
  cases line with
  | blank blanks => exact readLine_blank blanks
  | comment blanks text => exact readLine_comment blanks text
  | other text free => exact readLine_other free
  | assignment line =>
    have filtered : (EnvLine.assignment line).assignment?.filter (fun line => ¬line.Shadowed) =
        if line.Shadowed then none else some line := by
      by_cases shadowed : line.Shadowed <;> simp [EnvLine.assignment?, shadowed]
    rw [filtered, EnvLine.text]
    cases exported : line.exported with
    | none =>
      rw [readLine_bare exported]
      split <;> rfl
    | some blanks =>
      have meant : ¬line.Shadowed := by
        rintro ⟨none, -⟩
        cases exported.symm.trans none
      rw [readLine_exported exported, if_neg meant]
      rfl

/-! ### Loading -/

/-- The assignments that the loader takes for what they are. -/
def meant (lines : List EnvLine) : List Assignment :=
  (lines.filterMap EnvLine.assignment?).filter fun line => ¬line.Shadowed

/-- `setenv` with the key of an assignment. -/
theorem setenv_apply (key : Identifier) (value : Bytes) (environment : Environment)
    (name : Bytes) :
    setenv key.text value environment name =
      (environment name).or (if key.text = name then some value else none) := by
  have named : key.text = [] ∨ equals ∈ key.text ∨ (environment key.text).isSome ↔
      (environment key.text).isSome := by
    have free : equals ∉ key.text := key.not_mem (by decide)
    simp only [key.ne_nil, free, false_or]
  rw [setenv, if_congr named rfl rfl]
  by_cases same : key.text = name
  · subst same
    cases already : environment key.text with
    | none => simp
    | some old => simp [already]
  · rw [if_neg same, Option.or_none]
    split
    · rfl
    · exact Function.update_of_ne (Ne.symm same) _ _

/-- One line assigns to its variable where that is not set. -/
theorem loadLine_apply (environment : Environment) (line : EnvLine) (name : Bytes) :
    loadLine environment line.text name =
      (environment name).or (firstValue (meant [line]) name) := by
  have alone : meant [line] = (line.assignment?.filter fun line => ¬line.Shadowed).toList := by
    cases line with
    | assignment line =>
      by_cases shadowed : line.Shadowed <;>
        simp [meant, EnvLine.assignment?, Option.filter, shadowed]
    | _ => rfl
  rw [loadLine, readLine_eq, alone]
  cases line.assignment?.filter fun line => ¬line.Shadowed with
  | none => exact (Option.or_none).symm
  | some line =>
    have key : cStr line.key.text = line.key.text := cStr_of_notMem (line.key.not_mem (by decide))
    have value : cStr line.value.value = line.value.value := cStr_of_notMem line.value.free
    change setenv (cStr line.key.text) (cStr line.value.value) environment name = _
    rw [key, value, setenv_apply]
    congr 1
    rw [Option.toList_some, firstValue, List.findSome?_singleton]

theorem meant_cons (line : EnvLine) (lines : List EnvLine) :
    meant (line :: lines) = meant [line] ++ meant lines := by
  rw [meant, meant, meant, ← List.filter_append, ← List.filterMap_append]
  rfl

/-- A run over the lines: a variable keeps its value, or gets its first one. -/
theorem loadLines_apply (lines : List EnvLine) (environment : Environment) (name : Bytes) :
    (lines.map EnvLine.text).foldl loadLine environment name =
      (environment name).or (firstValue (meant lines) name) := by
  induction lines generalizing environment with
  | nil => exact (Option.or_none).symm
  | cons line lines ih =>
    rw [List.map_cons, List.foldl_cons, ih, loadLine_apply, meant_cons line lines, Option.or_assoc]
    congr 1
    exact (List.findSome?_append).symm

/-- The file is read once. -/
theorem loadEnvFile_again {process : Process} (again : process.once = true)
    (files : List (Option Bytes)) :
    files.foldl (fun process file => loadEnvFile file process) process = process := by
  induction files with
  | nil => rfl
  | cons file files ih =>
    have skipped : loadEnvFile file process = process := if_pos again
    rw [List.foldl_cons, skipped, ih]

/-- **What is written in the file is read back, and nothing is overridden.** A file is made of
blank lines, comments, lines without `=` and assignments, and the loader is called first with
this file, and then however often: each variable keeps its value where it was set, and gets that
of its first assignment otherwise, assignments apart whose key is taken for the word in front of
a key. -/
theorem loadEnvFile_spec {file : Bytes} {lines : List EnvLine}
    (made : getlines file = lines.map EnvLine.text) (environment : Environment)
    (later : List (Option Bytes)) (name : Bytes) :
    ((some file :: later).foldl (fun process file => loadEnvFile file process)
      ⟨false, environment⟩).environment name =
      (environment name).or (firstValue (meant lines) name) := by
  have loaded : loadEnvFile (some file) ⟨false, environment⟩ =
      ⟨true, (getlines file).foldl loadLine environment⟩ := rfl
  rw [List.foldl_cons, loaded, loadEnvFile_again rfl, made]
  exact loadLines_apply lines environment name

/-- The line `export =v`: its key is the word itself. -/
def shadowedLine : Assignment where
  lead := ⟨[], List.forall_mem_nil _⟩
  exported := none
  key := ⟨letters "export", ⟨101, rfl, rfl⟩, List.all_eq_true.mp (by decide)⟩
  beforeEquals := ⟨[32], List.forall_mem_singleton.mpr rfl⟩
  afterEquals := ⟨[], List.forall_mem_nil _⟩
  value := .plain [118] ⟨by rintro _ ⟨⟩; decide, by rintro _ ⟨⟩; decide⟩ (by decide) (by decide)
  trail := ⟨[], List.forall_mem_nil _⟩

/-- The line ` export  _k1 = "it's" `. -/
def exportedLine : Assignment where
  lead := ⟨[32], List.forall_mem_singleton.mpr rfl⟩
  exported := some ⟨[32], List.forall_mem_singleton.mpr rfl⟩
  key := ⟨letters "_k1", ⟨95, rfl, rfl⟩, List.all_eq_true.mp (by decide)⟩
  beforeEquals := ⟨[32], List.forall_mem_singleton.mpr rfl⟩
  afterEquals := ⟨[9], List.forall_mem_singleton.mpr rfl⟩
  value := .quoted 34 (Or.inl rfl) (letters "it's") (by decide)
  trail := ⟨[13], List.forall_mem_singleton.mpr rfl⟩

/-- Behind a comment, the variable is read without its quotes. -/
theorem loadEnvFile_spec_exported :
    (loadEnvFile (some (letters "#\n export  _k1 =\t\"it's\"\r\n"))
      ⟨false, fun _ => none⟩).environment (letters "_k1") = some (letters "it's") := by
  have made : getlines (letters "#\n export  _k1 =\t\"it's\"\r\n") =
      [.comment ⟨[], List.forall_mem_nil _⟩ [], .assignment exportedLine].map EnvLine.text := by
    decide
  exact loadEnvFile_spec made (fun _ => none) [] (letters "_k1")

/-- The variable named `export` is not set by its line. -/
theorem shadowedLine_lost :
    getlines (letters "export =v") = [EnvLine.assignment shadowedLine].map EnvLine.text ∧
      firstValue ([EnvLine.assignment shadowedLine].filterMap EnvLine.assignment?)
        (letters "export") = some (letters "v") ∧
      (loadEnvFile (some (letters "export =v")) ⟨false, fun _ => none⟩).environment
        (letters "export") = none := by
  decide

end EnvFile

end ClusterChat
