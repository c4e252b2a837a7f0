import LobsterServer.Proofs.Compiler.Failure
import LobsterServer.Proofs.Document.ScratchPath

set_option autoImplicit false

/-!
# The place of a copy

A URI is any text that an editor sends, and a part of it becomes the name of a file.  The main
statement says that this can do no harm: the copy of a document is a direct child of the
sub-directory for its URI, whatever separators and dots the URI has, and nothing else is written;
where the name cannot be that of a file the compiler is not run; and a report about the copy of one
document is never taken for a report about another document.  What keeps two URIs apart is that
their digests differ.
-/

namespace LobsterServer

/-- The path ends in a separator or in a piece of dots, so it can only be that of a directory. -/
def Path.NamesDirectory (p : Text) : Prop :=
  lastPiece p = [] ∨ lastPiece p = ['.'] ∨ lastPiece p = ['.', '.']

instance (p : Text) : Decidable (Path.NamesDirectory p) :=
  inferInstanceAs (Decidable (_ ∨ _ ∨ _))

namespace Scratch

/-- How writing the copy of a document may end: in any error, or with the text in its file.  What
can only be a directory is never written. -/
inductive Writes (s : Scratch) (uri : String) (content : Text) :
    Except RunError Scratch → Prop where
  | refused (e : RunError) : Writes s uri content (.error e)
  | written (isFile : ¬ Path.NamesDirectory (s.filePath uri).toList) :
    Writes s uri content (.ok { s with files := s.files.insert (s.filePath uri) content })

/-- In `t` the text of the document lies in a file that is a direct child of the sub-directory for
its URI, and all other files are as in `s`. -/
structure HoldsCopy (s t : Scratch) (d : Document) : Prop where
  root_eq : t.root = s.root
  content_eq : t.content? (s.filePath d.uri) = some d.text
  others_eq : ∀ path, path ≠ s.filePath d.uri → t.content? path = s.content? path
  isChild : Path.components (s.filePath d.uri).toList =
    Path.components (Path.join s.root.toList (slot d.uri).toList) ++ [.name d.fileName.toList]

/-- A line of a report is taken to be about the document if it names the file with the copy of it,
and not if it names a file with a copy of another document. -/
structure TellsApart (s : Scratch) (d : Document) : Prop where
  own : Path.components (relativePath d.uri).toList <:+ Path.components (s.filePath d.uri).toList
  others : ∀ other content t, s.Writes other content (.ok t) →
    digest other.toList ≠ digest d.uri.toList →
      ¬ Path.components (relativePath d.uri).toList <:+ Path.components (s.filePath other).toList
  isOwn_iff : ∀ l : Report.Line, d.subject.isOwn l = true ↔
    Path.components (relativePath d.uri).toList <:+ Path.components l.file

variable {s t : Scratch} {uri other : String} {content : Text}

/-! ## Names of files -/

/-- The path of a copy can only be that of a directory if the file name is empty or consists of one
or two dots. -/
theorem namesDirectory_filePath (s : Scratch) (uri : String) :
    Path.NamesDirectory (s.filePath uri).toList ↔ fileName uri ∈ ["", ".", ".."] := by
  rw [Path.NamesDirectory, lastPiece_filePath]
  simp [fileName, ← String.toList_inj]

/-- The place of a copy that can be written is a file in a sub-directory. -/
theorem components_of_isFile (isFile : ¬ Path.NamesDirectory (s.filePath uri).toList) :
    Path.components (relativePath uri).toList =
      [.name (slot uri).toList, .name (fileName uri).toList] := by
  rw [Path.NamesDirectory, lastPiece_filePath, not_or, not_or] at isFile
  obtain ⟨hempty, hdot, hdots⟩ := isFile
  have hname : Path.pieceComponent? (Path.shownName uri.toList) =
      some (.name (Path.shownName uri.toList)) := by
    simp [Path.pieceComponent?, hempty, hdot, hdots]
  rw [components_relativePath, hname]
  simp [fileName]

theorem isFile_of_writes (h : s.Writes uri content (.ok t)) :
    ¬ Path.NamesDirectory (s.filePath uri).toList := by
  cases h with
  | written isFile => exact isFile

/-- The scratch directory as it is modelled refuses more names than it has to. -/
theorem writes_write (s : Scratch) (uri : String) (content : Text) :
    s.Writes uri content ((s.write uri content).mapError fun fault => .io fault.message) := by
  unfold write
  cases hfault : nameFault? (fileName uri).toList with
  | some fault => exact .refused _
  | none =>
    refine .written ?_
    rw [namesDirectory_filePath]
    intro hmem
    simp only [List.mem_cons, List.not_mem_nil, or_false] at hmem
    rcases hmem with hname | hname | hname <;> rw [hname] at hfault <;> cases hfault

/-! ## Different URIs -/

/-- Copies for URIs with different digests lie in different sub-directories. -/
theorem components_filePath_ne (s : Scratch) (h : digest other.toList ≠ digest uri.toList) :
    Path.components (s.filePath other).toList ≠ Path.components (s.filePath uri).toList := by
  intro hsame
  rw [components_filePath, components_filePath, List.append_cancel_left_eq,
    components_relativePath, components_relativePath] at hsame
  have hslots := Path.Component.name.inj (List.cons.inj hsame).1
  exact slot_ne h (String.toList_inj.mp hslots)

theorem tellsApart {d : Document} (h : s.Writes d.uri content (.ok t)) : s.TellsApart d := by
  have hown := components_of_isFile (isFile_of_writes h)
  refine ⟨?_, ?_, ?_⟩
  · rw [components_filePath]
    exact List.suffix_append _ _
  · intro other content' u hother hdigests hsuffix
    -- both paths end in a sub-directory and a file in it
    rw [components_filePath, hown, components_of_isFile (isFile_of_writes hother)] at hsuffix
    obtain ⟨front, hfront⟩ := hsuffix
    have hlength : [Path.Component.name (slot d.uri).toList, .name (fileName d.uri).toList].length =
        [Path.Component.name (slot other).toList, .name (fileName other).toList].length := by simp
    have hboth := (List.append_inj' hfront hlength).2
    have hslots := Path.Component.name.inj (List.cons.inj hboth).1
    exact slot_ne hdigests (String.toList_inj.mp hslots).symm
  · intro l
    simp only [Report.Subject.isOwn, Path.endsWith, Document.subject, List.isSuffixOf_iff_suffix]

theorem holdsCopy {d : Document} (h : s.Writes d.uri d.text (.ok t)) : s.HoldsCopy t d := by
  have hown := components_of_isFile (isFile_of_writes h)
  cases h with
  | written isFile =>
    refine ⟨rfl, ?_, ?_, ?_⟩
    · exact Table.get?_insert_self _ _ _
    · intro path hpath
      exact Table.get?_insert_of_ne _ _ hpath
    · rw [components_filePath, hown, components_join_slot, List.append_assoc]
      rfl

end Scratch

namespace Document

open Scratch

/-- Copies stay in their place and are recognised.  However writing the copy of a document ends, the
only file it can have changed is a direct child of the sub-directory for the URI; the compiler is
given the path of this file, by which reports about it are told from those about the copies of other
documents.  If the URI shows a name that cannot be a file's, writing fails, and whatever the
compiler would do there is one diagnostic, which says so.  URIs with different digests have
different files.
The scratch directory as it is modelled is one of those that all of this holds of. -/
theorem copy_keeps_to_its_place (d : Document) (settings : Settings) (timeout : Nat) {s : Scratch}
    {written : Except RunError Scratch} (ends : s.Writes d.uri d.text written) :
    (∀ t, written = .ok t → s.HoldsCopy t d ∧ s.TellsApart d ∧
      (Invocation.compile settings t d timeout).arguments.getLast? = some (s.filePath d.uri)) ∧
    (d.fileName ∈ ["", ".", ".."] → ∃ e, written = .error e ∧ ∀ run,
      d.produceAfter settings .none timeout written run =
        [⟨⟨⟨0, 0⟩, ⟨0, 0⟩⟩, .error, some "compiler-failure", some "lobster",
          "Could not prepare document for the Lobster compiler: " ++ e.message⟩]) ∧
    (∀ other : String, digest other.toList ≠ digest d.uri.toList →
      Path.components (s.filePath other).toList ≠ Path.components (s.filePath d.uri).toList) ∧
    ∃ own, s.Writes d.uri d.text own ∧ ∀ state run,
      d.produce settings state timeout s run = d.produceAfter settings state timeout own run := by
  refine ⟨?_, ?_, ?_, ?_⟩
  · rintro t rfl
    have hpath : t.filePath d.uri = s.filePath d.uri := by
      rw [filePath, filePath, (holdsCopy ends).root_eq]
    refine ⟨holdsCopy ends, tellsApart ends, ?_⟩
    rw [Invocation.compile, Settings.compileArguments, hpath]
    exact List.getLast?_concat
  · intro hname
    cases ends with
    | refused e => exact ⟨e, rfl, fun run => rfl⟩
    | written isFile => exact absurd ((namesDirectory_filePath s d.uri).mpr hname) isFile
  · intro other hdigests
    exact components_filePath_ne s hdigests
  · exact ⟨_, writes_write s d.uri d.text, fun state run =>
      produce_eq_produceAfter d settings state timeout s run⟩

/-- The scratch directory is written with a separator at its end, and the name of the document
stands behind a backslash.  Another document shows the same name, and a third one shows two dots. -/
theorem copy_keeps_to_its_place_behind_a_backslash :
    ∃ (s t : Scratch) (d up : Document) (other : String) (e : RunError),
      s = .empty "/t/" ∧ d = fresh "file:///w/..\\x" ['y'] 1 none ∧ d.fileName = "x" ∧
      other = "file:///v/x" ∧ Scratch.fileName other = "x" ∧
      up = fresh "file:///w/.." ['z'] 1 none ∧ up.fileName = ".." ∧
      s.Writes d.uri d.text (.ok t) ∧ s.HoldsCopy t d ∧ s.TellsApart d ∧
      digest other.toList ≠ digest d.uri.toList ∧
      Path.components (s.filePath other).toList ≠ Path.components (s.filePath d.uri).toList ∧
      s.Writes up.uri up.text (.error e) ∧ e = .io "Is a directory (os error 21)" ∧
      ∀ run, up.produceAfter .default .none 9 (.error e) run =
        [⟨⟨⟨0, 0⟩, ⟨0, 0⟩⟩, .error, some "compiler-failure", some "lobster",
          "Could not prepare document for the Lobster compiler: " ++ e.message⟩] := by
  let s : Scratch := .empty "/t/"
  let d := fresh "file:///w/..\\x" ['y'] 1 none
  let up := fresh "file:///w/.." ['z'] 1 none
  let e : RunError := .io "Is a directory (os error 21)"
  have isFile : ¬ Path.NamesDirectory (s.filePath d.uri).toList := by
    rw [namesDirectory_filePath]
    decide
  have hdigests : digest "file:///v/x".toList ≠ digest d.uri.toList := by decide
  have hname : up.fileName = ".." := by decide
  obtain ⟨hwritten, -, hothers, -⟩ := copy_keeps_to_its_place d .default 9 (.written isFile)
  obtain ⟨-, hrefused, -⟩ := copy_keeps_to_its_place up .default 9 (.refused (s := s) e)
  obtain ⟨e', he, hfailure⟩ := hrefused (by simp [hname])
  cases he
  obtain ⟨hholds, happart, -⟩ := hwritten _ rfl
  exact ⟨s, _, d, up, _, e, rfl, rfl, by decide, rfl, by decide, rfl, hname, .written isFile,
    hholds, happart, hdigests, hothers _ hdigests, .refused e, rfl, hfailure⟩

end Document

end LobsterServer
