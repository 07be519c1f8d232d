/-
  Command lines and what they say.

  A command line says an operand and some options, the parts, in any order around the word
  of its task, where each part may stand (`CommandLine`); an option with a value is written
  in either of two ways (`Valued`).  One step of `gather` takes one part (`gather_written`), so that
  a run of it takes them all (`gather_parts`).  The parts have distinct keys, and what has been
  gathered then depends on which parts there are and not on their order (`gather_line`).

  Main statements: `parseArguments_dump`, `parseArguments_query`, `parseArguments_help`.
-/
import Spirv.Command.Arguments
import Spirv.Proofs.Keyed

namespace Spirv.Command

/-! ## Arguments -/

/-- The text does not begin with a hyphen. -/
def IsPlain (text : String) : Prop :=
  text.toList.head? ≠ some '-'

instance (text : String) : Decidable (IsPlain text) :=
  inferInstanceAs (Decidable (text.toList.head? ≠ some '-'))

/-- The text can name a file on a command line. -/
structure IsFileName (text : String) : Prop where
  nonempty : text ≠ ""
  plain : IsPlain text

/-- The name of the option, without its hyphens. -/
def Switch.name : Switch → String
  | config => "config"
  | endian => "endian"
  | noHeader => "no-header"
  | json => "json"

/-- The word of the task. -/
def Task.name : Task → String
  | dump => "dump"
  | classify => "classify"
  | generator => "generator"

theorem Task.ofName?_name (task : Task) : Task.ofName? task.name = some task := by
  cases task <;> decide

theorem Task.isPlain_name (task : Task) : IsPlain task.name := by
  cases task <;> decide

theorem Switch.ofName?_dump_name (switch : Switch) :
    Switch.ofName? (some .dump) switch.name = some switch := by
  cases switch <;> decide

theorem Switch.ofName?_config_name (task : Option Task) :
    Switch.ofName? task Switch.config.name = some .config :=
  rfl

theorem Argument.ofText_of_plain {text : String} (h : IsPlain text) :
    Argument.ofText text = .word text := by
  unfold Argument.ofText
  unfold IsPlain at h
  split
  · rename_i heq
    exact absurd (congrArg List.head? heq) h
  · rename_i heq
    exact absurd (congrArg List.head? heq) h
  · rename_i heq
    exact absurd (congrArg List.head? heq) h
  · rfl

theorem splitValue_of_not_mem {cs : List Char} (h : '=' ∉ cs) : splitValue cs = (cs, none) := by
  induction cs with
  | nil => rfl
  | cons c cs ih =>
    obtain ⟨hc, hcs⟩ := not_or.1 (mt List.mem_cons.2 h)
    rw [splitValue, if_neg (Ne.symm hc), ih hcs]

theorem splitValue_append {cs value : List Char} (h : '=' ∉ cs) :
    splitValue (cs ++ '=' :: value) = (cs, some value) := by
  induction cs with
  | nil => rfl
  | cons c cs ih =>
    obtain ⟨hc, hcs⟩ := not_or.1 (mt List.mem_cons.2 h)
    rw [List.cons_append, splitValue, if_neg (Ne.symm hc), ih hcs]

theorem Switch.name_letters (switch : Switch) :
    ∃ c cs, switch.name = String.ofList (c :: cs) ∧ '=' ∉ c :: cs := by
  cases switch
  all_goals exact ⟨_, _, rfl, by decide⟩

theorem Argument.ofText_name (switch : Switch) :
    Argument.ofText ("--" ++ switch.name) = .option switch.name none := by
  obtain ⟨c, cs, hname, hmark⟩ := switch.name_letters
  have htext : ("--" ++ switch.name).toList = '-' :: '-' :: c :: cs := by
    rw [hname]
    simp
  simp only [Argument.ofText, htext]
  rw [splitValue_of_not_mem hmark, ← hname]
  rfl

theorem Argument.ofText_joined (switch : Switch) (value : String) :
    Argument.ofText ("--" ++ switch.name ++ "=" ++ value) =
      .option switch.name (some value) := by
  obtain ⟨c, cs, hname, hmark⟩ := switch.name_letters
  have htext : ("--" ++ switch.name ++ "=" ++ value).toList =
      '-' :: '-' :: c :: (cs ++ '=' :: value.toList) := by
    rw [hname]
    simp
  simp only [Argument.ofText, htext]
  rw [← List.cons_append, splitValue_append hmark, ← hname, Option.map_some,
    String.ofList_toList]

/-- The name of a byte order does not begin with a hyphen. -/
theorem isPlain_of_ofName? {name : String} {order : ByteOrder}
    (h : ByteOrder.ofName? name = some order) : IsPlain name := by
  intro hhead
  have hlower : (name.map Char.toLower).toList.head? = some '-' := by
    rw [String.toList_map, List.head?_map, hhead]
    rfl
  unfold ByteOrder.ofName? at h
  split at h
  · rename_i heq
    rw [heq] at hlower
    exact absurd hlower (by decide)
  · rename_i heq
    rw [heq] at hlower
    exact absurd hlower (by decide)
  · rename_i heq
    rw [heq] at hlower
    exact absurd hlower (by decide)
  · rename_i heq
    rw [heq] at hlower
    exact absurd hlower (by decide)
  · cases h

/-! ## Parts -/

/-- What one or two arguments say. -/
inductive Part where
  | operand (text : String)
  | config (path : String)
  | endian (order : ByteOrder)
  | noHeader
  | json
  deriving DecidableEq

namespace Part

/-- The option of the part; an operand has none. -/
def key : Part → Option Switch
  | operand _ => none
  | config _ => some .config
  | endian _ => some .endian
  | noHeader => some .noHeader
  | json => some .json

/-- Where the part may stand: behind the word of the given task, or before any. -/
def Allowed : Option Task → Part → Prop
  | _, config _ => True
  | some _, operand _ => True
  | some .dump, _ => True
  | _, _ => False

/-- Operands and values do not look like options, and files have names. -/
def Proper : Part → Prop
  | operand text => IsPlain text
  | config path => IsFileName path
  | _ => True

end Part

/-- The two ways to write an option with its value. -/
inductive Valued (switch : Switch) (value : String) : List String → Prop where
  | apart : Valued switch value ["--" ++ switch.name, value]
  | joined : Valued switch value ["--" ++ switch.name ++ "=" ++ value]

/-- The ways to write a part. -/
inductive Part.Written : Part → List String → Prop where
  | operand (text : String) : Written (.operand text) [text]
  | config {path : String} {args : List String} (h : Valued .config path args) :
      Written (.config path) args
  | endian {order : ByteOrder} {name : String} {args : List String}
      (hname : ByteOrder.ofName? name = some order) (h : Valued .endian name args) :
      Written (.endian order) args
  | noHeader : Written .noHeader ["--" ++ Switch.noHeader.name]
  | json : Written .json ["--" ++ Switch.json.name]

/-- The command lines of a task with the given parts: each part is written once, on a side
    of the task's word where it may stand. -/
inductive CommandLine (task : Task) (parts : List Part) : List String → Prop where
  | intro {outer inner : List Part} {before after : List (List String)}
      (hperm : (outer ++ inner).Perm parts)
      (houter : ∀ part ∈ outer, part.Allowed none)
      (hinner : ∀ part ∈ inner, part.Allowed (some task))
      (hbefore : List.Forall₂ Part.Written outer before)
      (hafter : List.Forall₂ Part.Written inner after) :
      CommandLine task parts (before.flatten ++ task.name :: after.flatten)

/-! ## Gathering parts -/

namespace Gathered

/-- What has been gathered, and the part. -/
def add (g : Gathered) : Part → Gathered
  | .operand text => { g with operand := some text }
  | .config path => { g with config := some path }
  | .endian order => { g with order := some order }
  | .noHeader => { g with noHeader := true }
  | .json => { g with json := true }

/-- The part takes effect. -/
def Has (g : Gathered) : Part → Prop
  | .operand text => g.operand = some text
  | .config path => g.settingsFile = some path
  | .endian order => g.order = some order
  | .noHeader => g.noHeader = true
  | .json => g.json = true

/-- No part with the same key has been gathered. -/
def Lacks (g : Gathered) : Part → Prop
  | .operand _ => g.operand = none
  | .config _ => g.settingsFile = none
  | .endian _ => g.order = none
  | .noHeader => g.noHeader = false
  | .json => g.json = false

@[simp] theorem task_add (g : Gathered) (part : Part) : (g.add part).task = g.task := by
  cases part <;> rfl

@[simp] theorem task_foldl_add (g : Gathered) (parts : List Part) :
    (parts.foldl add g).task = g.task := by
  induction parts generalizing g with
  | nil => rfl
  | cons part parts ih => rw [List.foldl_cons, ih, task_add]

theorem settingsFile_eq_none_iff {g : Gathered} :
    g.settingsFile = none ↔ g.config = none ∧ g.outerConfig = none := by
  simp [settingsFile]

theorem lacks_add_iff {g : Gathered} {part other : Part} :
    (g.add part).Lacks other ↔ g.Lacks other ∧ part.key ≠ other.key := by
  cases part <;> cases other <;> simp [add, Lacks, Part.key, settingsFile]

theorem has_add_iff {g : Gathered} {part other : Part} (h : g.Lacks part) :
    (g.add part).Has other ↔ g.Has other ∨ other = part := by
  cases part with
  | operand text =>
    have hnone : g.operand = none := h
    cases other <;> simp [add, Has, settingsFile, hnone, @eq_comm String text]
  | config path =>
    have hnone := settingsFile_eq_none_iff.1 h
    cases other <;> simp [add, Has, settingsFile, hnone, @eq_comm String path]
  | endian order =>
    have hnone : g.order = none := h
    cases other <;> simp [add, Has, settingsFile, hnone, @eq_comm ByteOrder order]
  | noHeader => cases other <;> simp [add, Has, settingsFile]
  | json => cases other <;> simp [add, Has, settingsFile]

/-- What has been gathered has one part for each key. -/
theorem keyed : Keyed add Part.key Has Lacks :=
  ⟨lacks_add_iff, has_add_iff⟩

/-- The word of the task changes no part: a settings file before it becomes the outer one. -/
theorem lacks_enter_iff {g : Gathered} {task : Task} (h : g.outerConfig = none) {part : Part} :
    (g.enter task).Lacks part ↔ g.Lacks part := by
  cases part <;> simp [enter, Lacks, settingsFile, h]

theorem has_enter_iff {g : Gathered} {task : Task} (h : g.outerConfig = none) {part : Part} :
    (g.enter task).Has part ↔ g.Has part := by
  cases part <;> simp [enter, Has, settingsFile, h]

theorem outerConfig_foldl_add (g : Gathered) (parts : List Part) :
    (parts.foldl add g).outerConfig = g.outerConfig := by
  induction parts generalizing g with
  | nil => rfl
  | cons part parts ih =>
    rw [List.foldl_cons, ih]
    cases part <;> rfl

end Gathered

section Gather

variable {g g' : Gathered} {rest : List String}

theorem gather_word {text : String} (hplain : IsPlain text) (h : g.takeWord text = some g') :
    gather g (text :: rest) = gather g' rest := by
  rw [gather, Argument.ofText_of_plain hplain]
  simp only [h]

theorem gather_switch {switch : Switch} (hvalue : switch.takesValue = false)
    (hname : Switch.ofName? g.task switch.name = some switch)
    (h : g.take switch none = some g') :
    gather g (("--" ++ switch.name) :: rest) = gather g' rest := by
  rw [gather, Argument.ofText_name]
  simp [hname, hvalue, h]

theorem gather_valued {switch : Switch} {value : String} {args : List String}
    (hvalue : switch.takesValue = true) (hplain : IsPlain value)
    (hname : Switch.ofName? g.task switch.name = some switch)
    (h : g.take switch (some value) = some g') (hargs : Valued switch value args) :
    gather g (args ++ rest) = gather g' rest := by
  cases hargs with
  | apart =>
    rw [List.cons_append, gather, Argument.ofText_name]
    simp [hname, hvalue, Argument.ofText_of_plain hplain, h]
  | joined =>
    rw [List.singleton_append, gather, Argument.ofText_joined]
    simp [hname, h]

theorem Part.ofName?_of_allowed {task : Option Task} {part : Part} (h : part.Allowed task)
    {switch : Switch} (hkey : part.key = some switch) :
    Switch.ofName? task switch.name = some switch := by
  cases part with
  | operand text => cases hkey
  | config path =>
    obtain rfl := Option.some.inj hkey
    exact Switch.ofName?_config_name task
  | endian | noHeader | json =>
    have htask : task = some .dump := by
      rcases task with - | task
      · exact h.elim
      · cases task
        · rfl
        · exact h.elim
        · exact h.elim
    rw [htask]
    exact switch.ofName?_dump_name

/-- **One step.** What is written for a part adds this part, where it may stand and is lacking. -/
theorem gather_written {part : Part} {args : List String} (hallowed : part.Allowed g.task)
    (hproper : part.Proper) (hlacks : g.Lacks part) (h : part.Written args) :
    gather g (args ++ rest) = gather (g.add part) rest := by
  cases h with
  | operand text =>
    have hnone : g.operand = none := hlacks
    obtain ⟨task, htask⟩ : ∃ task, g.task = some task := by
      cases htask : g.task with
      | none =>
        rw [htask] at hallowed
        exact hallowed.elim
      | some task => exact ⟨task, rfl⟩
    exact gather_word hproper (by
      simp [Gathered.takeWord, Gathered.takeOperand, htask, hnone, Gathered.add])
  | @config path _ hargs =>
    have hfile : IsFileName path := hproper
    have hnone := (Gathered.settingsFile_eq_none_iff.1 hlacks).1
    exact gather_valued rfl hfile.plain (Part.ofName?_of_allowed hallowed rfl) (by
      simp [Gathered.take, hnone, hfile.nonempty, Gathered.add]) hargs
  | endian hname hargs =>
    have hnone : g.order = none := hlacks
    exact gather_valued rfl (isPlain_of_ofName? hname) (Part.ofName?_of_allowed hallowed rfl) (by
      simp [Gathered.take, hnone, hname, Gathered.add]) hargs
  | noHeader =>
    have hfalse : g.noHeader = false := hlacks
    exact gather_switch rfl (Part.ofName?_of_allowed hallowed rfl) (by
      simp [Gathered.take, hfalse, Gathered.add])
  | json =>
    have hfalse : g.json = false := hlacks
    exact gather_switch rfl (Part.ofName?_of_allowed hallowed rfl) (by
      simp [Gathered.take, hfalse, Gathered.add])

/-- **A run.** What is written for fresh parts adds them all. -/
theorem gather_parts {parts : List Part} {pieces : List (List String)}
    (hwritten : List.Forall₂ Part.Written parts pieces)
    (hfresh : Keyed.Fresh Part.key Gathered.Lacks g parts)
    (hallowed : ∀ part ∈ parts, part.Allowed g.task) (hproper : ∀ part ∈ parts, part.Proper) :
    gather g (pieces.flatten ++ rest) = gather (parts.foldl Gathered.add g) rest := by
  induction hwritten generalizing g with
  | nil => rfl
  | @cons part piece parts pieces hpart _ ih =>
    obtain ⟨hlacks, hfresh⟩ := Gathered.keyed.fresh_cons_iff.1 hfresh
    rw [List.forall_mem_cons] at hallowed hproper
    rw [List.flatten_cons, List.append_assoc,
      gather_written hallowed.1 hproper.1 hlacks hpart, List.foldl_cons]
    exact ih hfresh (by simpa using hallowed.2) hproper.2

end Gather

/-- **Command lines.** What takes effect behind a command line is what its parts say, wherever
    they stand. -/
theorem gather_line {task : Task} {parts : List Part} {args : List String}
    (hkeys : (parts.map Part.key).Nodup) (hproper : ∀ part ∈ parts, part.Proper)
    (hline : CommandLine task parts args) :
    ∃ g : Gathered, g.task = some task ∧ (∀ part, g.Has part ↔ part ∈ parts) ∧
      ∀ rest, gather {} (args ++ rest) = gather g rest := by
  obtain @⟨outer, inner, before, after, hperm, houter, hinner, hbefore, hafter⟩ := hline
  have hproper' : ∀ part ∈ outer ++ inner, part.Proper := fun part hpart =>
    hproper part (hperm.mem_iff.1 hpart)
  rw [List.forall_mem_append] at hproper'
  have hfresh : Keyed.Fresh Part.key Gathered.Lacks {} (outer ++ inner) := by
    refine ⟨(hperm.map Part.key).nodup_iff.2 hkeys, ?_⟩
    intro part _
    cases part <;> rfl
  obtain ⟨hfreshOuter, hfreshInner⟩ := Gathered.keyed.fresh_append_iff.1 hfresh
  -- The task's word moves an outer settings file; which parts there are stays the same.
  let mid := outer.foldl Gathered.add {}
  have hmidTask : mid.task = none := Gathered.task_foldl_add {} outer
  have hmidOuter : mid.outerConfig = none := Gathered.outerConfig_foldl_add {} outer
  have hfreshEntered : Keyed.Fresh Part.key Gathered.Lacks (mid.enter task) inner :=
    ⟨hfreshInner.1, fun part hpart => (Gathered.lacks_enter_iff hmidOuter).2
      (hfreshInner.2 part hpart)⟩
  refine ⟨inner.foldl Gathered.add (mid.enter task), ?_, ?_, ?_⟩
  · rw [Gathered.task_foldl_add]
    rfl
  · intro part
    rw [Gathered.keyed.has_foldl_iff hfreshEntered, Gathered.has_enter_iff hmidOuter,
      Gathered.keyed.has_foldl_iff hfreshOuter, ← hperm.mem_iff, List.mem_append]
    have hempty : ¬ Gathered.Has {} part := by
      cases part <;> simp [Gathered.Has, Gathered.settingsFile]
    simp only [hempty, false_or]
  · have hword : mid.takeWord task.name = some (mid.enter task) := by
      simp [Gathered.takeWord, hmidTask, task.ofName?_name]
    intro rest
    rw [List.append_assoc, List.cons_append,
      gather_parts hbefore hfreshOuter houter hproper'.1,
      gather_word task.isPlain_name hword,
      gather_parts hafter hfreshEntered hinner hproper'.2]

theorem parseArguments_of_gather {args : List String} {g : Gathered} {inv : Invocation}
    (hgather : ∀ rest, gather {} (args ++ rest) = gather g rest)
    (hinv : g.invocation? = some inv) : parseArguments args = .ok inv := by
  have hend : gather {} args = .ok g := by
    have h := hgather []
    rw [List.append_nil] at h
    exact h
  simp only [parseArguments, hend, hinv]

/-- **Help.** Behind the parts of a task, help is what is asked for, whether or not they are
    complete and whatever follows. -/
theorem parseArguments_help {task : Task} {parts : List Part} {args : List String}
    (hkeys : (parts.map Part.key).Nodup) (hproper : ∀ part ∈ parts, part.Proper)
    (hline : CommandLine task parts args) (rest : List String) :
    parseArguments (args ++ "--help" :: rest) = .error .help := by
  obtain ⟨g, -, -, hgather⟩ := gather_line hkeys hproper hline
  have hname : Argument.ofText "--help" = .option "help" none := by decide +kernel
  have hswitch : Switch.ofName? g.task "help" = none := by
    simp [Switch.ofName?]
  have hhelp : gather g ("--help" :: rest) = .error .help := by
    rw [gather, hname]
    simp only [hswitch]
    rfl
  simp only [parseArguments, hgather, hhelp]

/-! ## Selections -/

/-- The options of a command line, each given at most once. -/
structure Selection where
  config : Option String
  order : Option ByteOrder
  noHeader : Bool
  json : Bool

/-- The parts that the options are. -/
def Selection.options (s : Selection) : List Part :=
  s.config.toList.map .config ++ s.order.toList.map .endian ++
    (if s.noHeader then [.noHeader] else []) ++ (if s.json then [.json] else [])

theorem Selection.nodup_key (s : Selection) (text : String) :
    ((Part.operand text :: s.options).map Part.key).Nodup := by
  obtain ⟨config, order, noHeader, json⟩ := s
  cases config <;> cases order <;> cases noHeader <;> cases json <;>
    simp [Selection.options, Part.key]

theorem Selection.proper {s : Selection} {text : String} (htext : IsPlain text)
    (hconfig : ∀ path ∈ s.config, IsFileName path) :
    ∀ part ∈ Part.operand text :: s.options, part.Proper := by
  intro part hpart
  cases part with
  | operand other =>
    obtain rfl : other = text := by simpa [Selection.options] using hpart
    exact htext
  | config path => exact hconfig path (by simpa [Selection.options] using hpart)
  | endian | noHeader | json => trivial

theorem Gathered.settingsFile_eq {g : Gathered} {s : Selection} {text : String}
    (hhas : ∀ part, g.Has part ↔ part ∈ Part.operand text :: s.options) :
    g.settingsFile = s.config := by
  ext path
  have h := hhas (.config path)
  simpa [Gathered.Has, Selection.options] using h

/-- **A dump.** Every command line for a file and a selection of options asks for the same. -/
theorem parseArguments_dump {file : String} {s : Selection} {args : List String}
    (hfile : IsFileName file) (hconfig : ∀ path ∈ s.config, IsFileName path)
    (hline : CommandLine .dump (.operand file :: s.options) args) :
    parseArguments args = .ok ⟨s.config, .dump file s.order s.noHeader s.json⟩ := by
  obtain ⟨g, htask, hhas, hgather⟩ :=
    gather_line (s.nodup_key file) (Selection.proper hfile.plain hconfig) hline
  have hoperand : g.operand = some file := (hhas (.operand file)).2 List.mem_cons_self
  have horder : g.order = s.order := by
    ext order
    have h := hhas (.endian order)
    simpa [Gathered.Has, Selection.options] using h
  have hnoHeader : g.noHeader = s.noHeader := by
    have h := hhas .noHeader
    simpa [Gathered.Has, Selection.options] using h
  have hjson : g.json = s.json := by
    have h := hhas .json
    simpa [Gathered.Has, Selection.options] using h
  refine parseArguments_of_gather hgather ?_
  simp [Gathered.invocation?, htask, hoperand, hfile.nonempty, Gathered.settingsFile_eq hhas,
    horder, hnoHeader, hjson]

/-- **A query.** Every command line for a query and a settings file asks for the same. -/
theorem parseArguments_query {task : Task} {query : String} {config : Option String}
    {args : List String} (htask : task ≠ .dump) (hquery : IsPlain query)
    (hconfig : ∀ path ∈ config, IsFileName path)
    (hline : CommandLine task (.operand query :: config.toList.map .config) args) :
    parseArguments args =
      .ok ⟨config, if task = .classify then .classify query else .generator query⟩ := by
  let s : Selection := ⟨config, none, false, false⟩
  have hoptions : s.options = config.toList.map .config := by simp [s, Selection.options]
  rw [← hoptions] at hline
  obtain ⟨g, hg, hhas, hgather⟩ :=
    gather_line (s.nodup_key query) (Selection.proper hquery hconfig) hline
  have hoperand : g.operand = some query := (hhas (.operand query)).2 List.mem_cons_self
  have hsettings : g.settingsFile = config := Gathered.settingsFile_eq hhas
  refine parseArguments_of_gather hgather ?_
  cases task with
  | dump => exact absurd rfl htask
  | classify => simp [Gathered.invocation?, hg, hoperand, hsettings]
  | generator => simp [Gathered.invocation?, hg, hoperand, hsettings]

end Spirv.Command
