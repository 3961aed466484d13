import LessonCheck.Report

/-!
# The command line

Arguments are read from left to right, and the first of them that settles the matter does: a request for
help or for the version, or a mistake. The flags for the settings may stand before and after the command,
each of them once on either side, and the ones behind it count. A separator turns whatever follows into
files. What is told by its wording has to be a text, the name of a file need not be one.
-/

namespace LessonCheck

inductive Task
  | session
  | check (files : List NativeText) (format : ReportFormat)
  deriving DecidableEq, Repr

structure Flags where
  relaxed : Bool
  settingsFile : Option NativeText
  deriving DecidableEq, Repr

structure Invocation where
  task : Task
  flags : Flags
  deriving DecidableEq, Repr

inductive Request
  | run (invocation : Invocation)
  | version
  | help
  | misuse
  deriving DecidableEq, Repr

/-- An argument by its shape. Of letters behind a single hyphen only the first one matters. -/
inductive Argument
  | word (text : NativeText)
  | separator
  | letter (c : Char)
  | option (name : Text) (attached : Option NativeText)
  deriving DecidableEq, Repr

namespace Argument

def ofText : Text → Argument
  | ['-', '-'] => separator
  | '-' :: '-' :: r =>
    match Text.cut? '=' r with
    | some (name, value) => option name (some value)
    | none => option r none
  | '-' :: c :: _ => letter c
  | t => word t

/-- What is shown of bytes has their hyphens and equals signs in place, and no option has a replacement character in
its name. -/
def ofNative : NativeText → Argument
  | .text t => ofText t
  | .raw bytes h =>
    match Text.ofUtf8Lossy bytes with
    | '-' :: '-' :: r =>
      match Text.cut? '=' r with
      | some (name, _) => option name (some (.ofBytes (bytes.dropWhile (· ≠ 0x3D)).tail))
      | none => option r none
    | '-' :: c :: _ => letter c
    | _ => word (.raw bytes h)

end Argument

namespace Flags

def unset : Flags := ⟨false, none⟩

/-- The flags together with those that stand further in front. -/
def within (inner outer : Flags) : Flags :=
  ⟨inner.relaxed || outer.relaxed, inner.settingsFile <|> outer.settingsFile⟩

/-- The value of an option: the attached one, or else the next argument if that is a word. -/
def value? : Option NativeText → List NativeText → Option (NativeText × List NativeText)
  | some v, rest => some (v, rest)
  | none, v :: rest => if Argument.ofNative v = .word v then some (v, rest) else none
  | none, [] => none

/-- The flags with one more option, and the arguments behind it. -/
def add? (flags : Flags) (name : Text) (attached : Option NativeText) (rest : List NativeText) :
    Option (Flags × List NativeText) :=
  if name = "relaxed".toList then
    if attached = none ∧ !flags.relaxed then some (⟨true, flags.settingsFile⟩, rest) else none
  else if name = "config".toList then
    match value? attached rest with
    | some (v, rest) =>
      if v ≠ .text [] ∧ flags.settingsFile = none then some (⟨flags.relaxed, some v⟩, rest) else none
    | none => none
  else none

theorem length_value?_le {attached : Option NativeText} {rest rest' : List NativeText} {v : NativeText}
    (h : value? attached rest = some (v, rest')) : rest'.length ≤ rest.length := by
  cases attached with
  | some a => simp_all [value?]
  | none =>
    cases rest with
    | nil => simp [value?] at h
    | cons a rest =>
      simp only [value?] at h
      split at h <;> simp_all

theorem length_add?_le {flags flags' : Flags} {name : Text} {attached : Option NativeText}
    {rest rest' : List NativeText}
    (h : flags.add? name attached rest = some (flags', rest')) : rest'.length ≤ rest.length := by
  unfold add? at h
  split at h
  · split at h <;> simp_all
  · split at h
    · split at h
      · rename_i hv
        split at h
        · simp only [Option.some.injEq, Prod.mk.injEq] at h
          exact h.2 ▸ length_value?_le hv
        · simp at h
      · simp at h
    · simp at h

end Flags

namespace Request

structure CheckArguments where
  flags : Flags
  files : List NativeText
  json : Bool

namespace CheckArguments

def initial : CheckArguments := ⟨.unset, [], false⟩

/-- There has to be a file, and every file has to have a name. -/
def request (a : CheckArguments) (outer : Flags) : Request :=
  if a.files.isEmpty || a.files.contains (.text []) then .misuse
  else .run ⟨.check a.files (if a.json then .json else .text), a.flags.within outer⟩

end CheckArguments

def ofCheckArguments (outer : Flags) (a : CheckArguments) : List NativeText → Request
  | [] => a.request outer
  | t :: rest =>
    match Argument.ofNative t with
    | .word w => ofCheckArguments outer { a with files := a.files ++ [w] } rest
    | .separator => { a with files := a.files ++ rest : CheckArguments }.request outer
    | .letter c => if c = 'h' ∧ NativeText.text [] ∉ a.files then .help else .misuse
    | .option name attached =>
      if name = "help".toList ∧ attached = none ∧ NativeText.text [] ∉ a.files then .help
      else if name = "json".toList ∧ attached = none ∧ !a.json then
        ofCheckArguments outer { a with json := true } rest
      else
        match _h : a.flags.add? name attached rest with
        | some (flags, rest') => ofCheckArguments outer { a with flags } rest'
        | none => .misuse
termination_by ts => ts.length
decreasing_by
  · simp
  · simp
  · exact Nat.lt_succ_of_le (Flags.length_add?_le _h)

/-- Help may be asked for as a whole or on a command. -/
def ofHelpArguments : List NativeText → Request
  | [] => .help
  | [t] => if t = .text "check".toList ∨ t = .text "help".toList then .help else .misuse
  | _ => .misuse

/-- Reads all arguments, of which those up to the command have given the flags. -/
def ofArgumentsWith (flags : Flags) : List NativeText → Request
  | [] => .run ⟨.session, flags⟩
  | t :: rest =>
    match Argument.ofNative t with
    | .word w =>
      if w = .text "check".toList then ofCheckArguments flags .initial rest
      else if w = .text "help".toList then ofHelpArguments rest
      else .misuse
    | .separator => if rest = [] then .run ⟨.session, flags⟩ else .misuse
    | .letter c => if c = 'h' then .help else if c = 'V' then .version else .misuse
    | .option name attached =>
      if name = "help".toList ∧ attached = none then .help
      else if name = "version".toList ∧ attached = none then .version
      else
        match _h : flags.add? name attached rest with
        | some (flags, rest') => ofArgumentsWith flags rest'
        | none => .misuse
termination_by ts => ts.length
decreasing_by exact Nat.lt_succ_of_le (Flags.length_add?_le _h)

def ofArguments (ts : List NativeText) : Request := ofArgumentsWith .unset ts

end Request
end LessonCheck
