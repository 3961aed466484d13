import LessonCheck.CommandLine

/-!
# What a command line asks for

Reading the arguments collects the files that are to be checked. Every list of files can be asked for that is not
empty and holds no empty name, and no other list can: behind the separator the name of a file is not taken for an
option, and an empty name is a mistake wherever it stands.
-/

namespace LessonCheck.Request

/-- There is a file to be checked, and every such file has a name. -/
def Named (files : List NativeText) : Prop := files ≠ [] ∧ .text [] ∉ files

/-- The files of a request to check files are named. -/
def IsNamed : Request → Prop
  | run ⟨.check files _, _⟩ => Named files
  | _ => True

theorem isNamed_request (a : CheckArguments) (outer : Flags) : (a.request outer).IsNamed := by
  rw [CheckArguments.request]
  split
  · trivial
  · next hNamed =>
    rw [Bool.or_eq_true, not_or, List.isEmpty_iff, List.contains_iff_mem] at hNamed
    exact hNamed

theorem isNamed_ofCheckArguments (outer : Flags) (a : CheckArguments) (ts : List NativeText) :
    (ofCheckArguments outer a ts).IsNamed := by
  fun_induction ofCheckArguments outer a ts with
  | case1 | case3 => exact isNamed_request _ outer
  | case2 | case7 | case8 => assumption
  | case4 | case5 | case6 | case9 => trivial

theorem isNamed_ofHelpArguments (ts : List NativeText) : (ofHelpArguments ts).IsNamed := by
  unfold ofHelpArguments
  repeat' split
  all_goals trivial

theorem isNamed_ofArgumentsWith (flags : Flags) (ts : List NativeText) : (ofArgumentsWith flags ts).IsNamed := by
  fun_induction ofArgumentsWith flags ts with
  | case2 => exact isNamed_ofCheckArguments _ _ _
  | case3 => exact isNamed_ofHelpArguments _
  | case12 => assumption
  | _ => trivial

/-- The arguments for a check of the files, all of which stand behind the separator. -/
def checkArguments (format : ReportFormat) (files : List NativeText) : List NativeText :=
  match format with
  | .text => .text "check".toList :: .text "--".toList :: files
  | .json => .text "check".toList :: .text "--json".toList :: .text "--".toList :: files

theorem request_of_named {a : CheckArguments} (h : Named a.files) (outer : Flags) :
    a.request outer = .run ⟨.check a.files (if a.json then .json else .text), a.flags.within outer⟩ := by
  have hFiles : ¬(a.files.isEmpty || a.files.contains (.text [])) = true := by
    rwa [Bool.or_eq_true, not_or, List.isEmpty_iff, List.contains_iff_mem]
  rw [CheckArguments.request, if_neg hFiles]

theorem ofArguments_checkArguments {files : List NativeText} (h : Named files) (format : ReportFormat) :
    ofArguments (checkArguments format files) = .run ⟨.check files format, .unset⟩ := by
  cases format with
  | text =>
    have hRead : ofArguments (checkArguments .text files) = CheckArguments.request ⟨.unset, files, false⟩ .unset := by
      simp [ofArguments, checkArguments, ofArgumentsWith, ofCheckArguments, Argument.ofNative, Argument.ofText,
        CheckArguments.initial]
    exact hRead.trans (request_of_named h .unset)
  | json =>
    have hRead : ofArguments (checkArguments .json files) = CheckArguments.request ⟨.unset, files, true⟩ .unset := by
      simp [ofArguments, checkArguments, ofArgumentsWith, ofCheckArguments, Argument.ofNative, Argument.ofText,
        CheckArguments.initial, Text.cut?]
    exact hRead.trans (request_of_named h .unset)

/-- A list of files can be asked for exactly if it is named. -/
theorem exists_arguments_iff {files : List NativeText} {format : ReportFormat} :
    (∃ arguments flags, ofArguments arguments = .run ⟨.check files format, flags⟩) ↔ Named files := by
  constructor
  · rintro ⟨arguments, flags, h⟩
    have hNamed := isNamed_ofArgumentsWith .unset arguments
    rwa [← ofArguments, h] at hNamed
  · exact fun hNamed => ⟨_, _, ofArguments_checkArguments hNamed format⟩

end LessonCheck.Request
