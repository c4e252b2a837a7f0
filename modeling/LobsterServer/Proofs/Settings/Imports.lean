import LobsterServer.Proofs.Settings.SingleFlight

set_option autoImplicit false

/-!
# The imports that the compiler is given

The directory of a document is added to its imports twice over: an answer of the editor is merged
with it, and the arguments of a run add it where it is missing.  The main statement says that both
ways lead to one list, whatever stands in it twice: the global imports, and then the first
occurrences of what else is wanted.
-/

namespace LobsterServer

/-! ## Lists without repetitions -/

/-- Erasing repetitions leaves none. -/
theorem nodup_eraseDups (list : List String) : list.eraseDups.Nodup := by
  induction list using List.reverseRecOn with
  | nil => exact List.nodup_nil
  | append_singleton list x ih =>
    rw [List.eraseDups_append]
    by_cases hmem : x ∈ list
    · simpa [List.removeAll, hmem] using ih
    · have hnew : [x].removeAll list = [x] := by simp [List.removeAll, hmem]
      rw [hnew, List.nodup_append]
      refine ⟨ih, by simp [List.eraseDups_cons], fun a ha b hb hab => ?_⟩
      rw [List.mem_eraseDups] at ha hb
      rw [List.mem_singleton.mp hb] at hab
      exact hmem (hab ▸ ha)

/-- What is added to a list are the first occurrences of what it does not hold. -/
theorem addMissing_eq (list extra : List String) :
    addMissing list extra = list ++ (extra.filter (· ∉ list)).eraseDups := by
  induction extra using List.reverseRecOn with
  | nil => simp [addMissing]
  | append_singleton extra x ih =>
    have hnext : addMissing list (extra ++ [x]) =
        if (addMissing list extra).contains x then addMissing list extra
        else addMissing list extra ++ [x] := by
      rw [addMissing, List.foldl_append]
      rfl
    rw [hnext, ih]
    by_cases hlist : x ∈ list
    · simp [hlist]
    · by_cases hextra : x ∈ extra
      · simp [hlist, hextra, List.eraseDups_append, List.removeAll]
      · simp [hlist, hextra, List.eraseDups_append, List.removeAll, List.eraseDups_cons]

theorem mem_addMissing {list extra : List String} {x : String} :
    x ∈ addMissing list extra ↔ x ∈ list ∨ x ∈ extra := by
  rw [addMissing_eq, List.mem_append, List.mem_eraseDups, List.mem_filter]
  by_cases hlist : x ∈ list <;> simp [hlist]

/-- Nothing is added to a list that holds it all. -/
theorem addMissing_of_forall_mem {list extra : List String} (h : ∀ x ∈ extra, x ∈ list) :
    addMissing list extra = list := by
  have hnone : extra.filter (· ∉ list) = [] :=
    List.filter_eq_nil_iff.mpr fun x hx => by simpa using h x hx
  rw [addMissing_eq, hnone, List.eraseDups_nil, List.append_nil]

namespace Settings

/-! ## The imports of resolved settings -/

/-- The imports that are wanted besides the global ones, in order: those of the editor's answer,
and the directory of the document. -/
def wanted (reply : Answer) (directory : Option String) : List String :=
  reply.elim [] Override.imports ++ directory.toList

/-- Those imports that have to be added to the global ones, each at its first occurrence. -/
def added (global : Settings) (reply : Answer) (directory : Option String) : List String :=
  ((wanted reply directory).filter (· ∉ global.imports)).eraseDups

variable (global : Settings) (reply : Answer) (directory : Option String)

theorem addMissing_wanted : addMissing global.imports (wanted reply directory) =
    global.imports ++ added global reply directory :=
  addMissing_eq _ _

/-- The directory is added once, by the answer of the editor or without one. -/
theorem importsFor_settle :
    (Resolver.settle global directory reply).importsFor directory =
      global.imports ++ added global reply directory := by
  rw [← addMissing_wanted]
  cases reply with
  | none => rfl
  | some choice =>
    refine addMissing_of_forall_mem fun place hplace => ?_
    exact mem_addMissing.mpr (.inr (List.mem_append_right _ hplace))

/-- An import list holds the directory of its document. -/
theorem mem_of_directory {place : String} (h : place ∈ directory) :
    place ∈ global.imports ++ added global reply directory := by
  have hwanted : place ∈ wanted reply directory :=
    List.mem_append_right _ (Option.mem_toList.mpr h)
  rw [← addMissing_wanted]
  exact mem_addMissing.mpr (.inr hwanted)

/-- The same override selects the same executable again. -/
theorem executableOr_merged (choice : Override) :
    choice.executableOr (global.merged choice directory) = choice.executableOr global := by
  unfold merged Override.executableOr
  cases choice.executable with
  | none => rfl
  | some name =>
    by_cases hname : name = ""
    · simp [hname]
    · simp [hname]

/-- To merge the same override and directory again changes nothing. -/
theorem merged_merged (choice : Override) :
    (global.merged choice directory).merged choice directory = global.merged choice directory := by
  have himports : addMissing (global.merged choice directory).imports
      (choice.imports ++ directory.toList) = (global.merged choice directory).imports :=
    addMissing_of_forall_mem fun _ hplace => mem_addMissing.mpr (.inr hplace)
  have hexperimental : (choice.experimental.getD false ||
      (global.merged choice directory).experimental) =
        (global.merged choice directory).experimental := by
    simp [merged]
  rw [merged, executableOr_merged, himports, hexperimental]
  rfl

/-- A call ends with what the answer in the cell that it waits for leads to, and like a call without
an answer if the editor answers no questions. -/
theorem settings_of_call {r later : Resolver} {uri : String} {settings : Settings}
    (ends : later.finish (r.start uri directory).2 = some settings) :
    (r.capability = false → settings = Resolver.settle r.global directory none) ∧
    (∀ cell entry, (r.start uri directory).2.cell? = some cell →
      later.cells[cell]? = some entry → entry.answer = some reply →
        settings = Resolver.settle r.global directory reply) := by
  -- a call that waits was made with the capability, and the settings in force at its beginning
  have waiting : ∀ {cell : Nat}, r.capability = true →
      (r.start uri directory).2 = .waiting cell r.global directory →
      (r.capability = false → settings = Resolver.settle r.global directory none) ∧
      ∀ other entry, (r.start uri directory).2.cell? = some other →
        later.cells[other]? = some entry → entry.answer = some reply →
          settings = Resolver.settle r.global directory reply := by
    intro cell hon hcall
    refine ⟨fun hoff => absurd hoff (by simp [hon]), ?_⟩
    rintro other ⟨place, given⟩ hother hentry rfl
    rw [hcall] at hother ends
    cases hother
    simp only [Resolver.finish, hentry, Option.some.injEq] at ends
    exact ends.symm
  rcases r.start_cases uri directory with ⟨_, hstart⟩ | ⟨hon, cell, _, hstart⟩ | ⟨hon, _, hstart⟩
  · rw [hstart] at ends ⊢
    refine ⟨fun _ => (Option.some.inj ends).symm, fun _ _ hcell => ?_⟩
    cases hcell
  · exact waiting hon (congrArg Prod.snd hstart)
  · exact waiting hon (congrArg Prod.snd hstart)

/-- The compiler is given one list of imports, however the settings of a document were resolved: the
global imports as they are, and then the first occurrences of what else is wanted.  It holds the
directory of the document, and nothing behind the global imports stands in it twice.  An override
without imports leads to the same arguments as no override and as an editor that answers no
questions, and to merge an override again changes nothing. -/
theorem arguments_of_resolved_settings (file : String) :
    (Resolver.settle global directory reply).compileArguments directory file =
      "--compile-only" :: (global.imports ++ added global reply directory).flatMap
        (fun place => ["--import", place]) ++ [file] ∧
    (∀ place ∈ directory, place ∈ global.imports ++ added global reply directory) ∧
    (added global reply directory).Nodup ∧
    (∀ place ∈ added global reply directory, place ∉ global.imports) ∧
    (∀ choice : Override, choice.imports = [] →
      (Resolver.settle global directory (some choice)).compileArguments directory file =
        (Resolver.settle global directory none).compileArguments directory file) ∧
    (∀ choice, (global.merged choice directory).merged choice directory =
      global.merged choice directory) ∧
    ∀ (r later : Resolver) (uri : String) (settings : Settings), r.global = global →
      later.finish (r.start uri directory).2 = some settings →
        (r.capability = false → settings = Resolver.settle global directory none) ∧
        (∀ cell entry, (r.start uri directory).2.cell? = some cell →
          later.cells[cell]? = some entry → entry.answer = some reply →
            settings = Resolver.settle global directory reply) := by
  refine ⟨?_, fun place => mem_of_directory global reply directory, nodup_eraseDups _,
    fun place hplace => ?_, fun choice hnone => ?_, merged_merged global directory, ?_⟩
  · rw [compileArguments, importsFor_settle]
  · rw [added, List.mem_eraseDups, List.mem_filter] at hplace
    exact of_decide_eq_true hplace.2
  · have hsame : added global (some choice) directory = added global none directory := by
      simp only [added, wanted, Option.elim, hnone]
    rw [compileArguments, importsFor_settle, hsame, compileArguments, importsFor_settle]
  · rintro r later uri settings rfl
    exact settings_of_call reply directory

/-- An import stands twice in the global list.  The override repeats it and one of its own, and it
names the directory of the document as well. -/
theorem arguments_of_resolved_settings_with_repetitions :
    ∃ (global settings : Settings) (choice : Override) (r later : Resolver),
      global = ⟨"lobster", ["/lib", "/lib"], true⟩ ∧
      choice = ⟨none, ["/own", "/work", "/lib", "/own"], none⟩ ∧
      r = .after global [.setCapability true] ∧
      later = .after global [.setCapability true, .start "a" (some "/work"),
        .answer 0 (.ok (some choice))] ∧
      later.finish (r.start "a" (some "/work")).2 = some settings ∧
      settings.compileArguments (some "/work") "/scratch/a" =
        ["--compile-only", "--import", "/lib", "--import", "/lib", "--import", "/own", "--import",
          "/work", "/scratch/a"] ∧
      (global.merged ⟨some "other", [], some true⟩ (some "/work")).compileArguments (some "/work")
          "/scratch/a" =
        ["--compile-only", "--import", "/lib", "--import", "/lib", "--import", "/work",
          "/scratch/a"] := by
  let global : Settings := ⟨"lobster", ["/lib", "/lib"], true⟩
  let choice : Override := ⟨none, ["/own", "/work", "/lib", "/own"], none⟩
  let r : Resolver := .after global [.setCapability true]
  let later : Resolver := .after global [.setCapability true, .start "a" (some "/work"),
    .answer 0 (.ok (some choice))]
  obtain ⟨harguments, -, -, -, hsilent, -, hcall⟩ :=
    arguments_of_resolved_settings global (some choice) (some "/work") "/scratch/a"
  have hsettings := (hcall r later "a" _ rfl rfl).2 0 _ rfl rfl rfl
  refine ⟨global, _, choice, r, later, rfl, rfl, rfl, rfl, rfl, ?_, ?_⟩
  · rw [hsettings, harguments]
    decide
  · exact (hsilent ⟨some "other", [], some true⟩ rfl).trans (by decide)

end Settings

end LobsterServer
