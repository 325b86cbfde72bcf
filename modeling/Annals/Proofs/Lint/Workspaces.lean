import Annals.Proofs.Files.Outline
import Annals.Proofs.Lint.Steadiness

/-!
# Runs over Workspaces

A run over a workspace is a run over its documents, file by file.

The paths of a workspace lead to files, so there is only one way in which a document
cannot be read: its bytes are no text. Such a path is worth one issue of its own. Any
other path is worth a word of progress and the document that is loaded there, which is
worth what it is worth by itself, since the memo is steady (`Context.steady`). The run is
all of this in the order of the paths, whoever listens.

Because the paths come from the outline of the tree, a file that cannot be read any more
is still gone to, and nothing else in the run changes with it.

## Main definitions

* `Run.unreadable`: The issue of a document that cannot be read.
* `Run.segment`, `Run.contribution`: What a path tells, and what it adds to the results.

## Theorems

* `load_of_mem_selection`: What is loaded at a path of a workspace, by the bytes there.
* `lintWorkspace_parts`: A run over a workspace, by its paths.
* `lintWorkspace_documents`: A run over a workspace in which all files can be read.
* `segment_rewrite`: What a path tells if one file has other bytes.
* `lintWorkspace_segments`: All of this for one run.
-/

namespace Annals

namespace Workspace

variable {w : Workspace} {fs : FileSystem} {p : Path}

/-- The document that bytes make at a path, if they are a text. -/
def documentOf (w : Workspace) (fs : FileSystem) (p : Path) (bytes : List UInt8) :
    Except ReadFault Document :=
  match Utf8.decode (bytes.map UInt8.toNat) with
  | .ok cs => .ok ⟨(fs.resolve p).uri, w.nameOf fs p, String.ofList (Text.joinLineEnds cs)⟩
  | .error f => .error (.undecodable f)

theorem isFile_of_mem_allHits {patterns : List String} (h : p ∈ (w.allHits fs patterns).paths) :
    fs.isFile p = true := by
  induction patterns with
  | nil => cases h
  | cons pattern rest ih =>
      rw [allHits] at h
      cases hhits : w.hits fs pattern with
      | error f =>
          rw [hhits] at h
          cases h
      | ok found =>
          rw [hhits] at h
          rcases List.mem_append.mp h with hown | hrest
          · unfold hits at hhits
            cases hselect : Glob.select fs w.root pattern with
            | error f =>
                rw [hselect] at hhits
                cases hhits
            | ok selected =>
                rw [hselect] at hhits
                cases hhits
                -- Of what a glob selects only the files are kept.
                exact (List.mem_filter.mp hown).2
          · exact ih hrest

/-- The paths of a workspace lead to files. -/
theorem isFile_of_mem_selection (h : p ∈ (w.selection fs).paths) : fs.isFile p = true := by
  have hfound := (List.mem_filter.mp h).1
  exact isFile_of_mem_allHits (List.mem_eraseDups.mp hfound)

/-- What is loaded at a path of a workspace is the text that the bytes there make, and if
    they make none, there is no other fault than this. -/
theorem load_of_mem_selection (h : p ∈ (w.selection fs).paths) :
    ∃ bytes, fs.find p = .ok (.file bytes) ∧
      w.load fs p = w.documentOf fs p bytes := by
  have hfile := isFile_of_mem_selection h
  unfold FileSystem.isFile at hfile
  cases hfind : fs.find p with
  | error f =>
      rw [hfind] at hfile
      cases hfile
  | ok t =>
      -- A directory is not selected, so there are bytes to be read.
      cases t with
      | directory entries =>
          rw [hfind] at hfile
          cases hfile
      | file bytes =>
          refine ⟨bytes, rfl, ?_⟩
          unfold load FileSystem.read documentOf
          simp only [hfind, bind, Except.bind]
          cases Utf8.decode (bytes.map UInt8.toNat) <;> rfl

end Workspace

namespace Run

variable {ρ : Type}

/-- The issue of a document that cannot be read. -/
def unreadable (w : Workspace) (fs : FileSystem) (p : Path) (f : ReadFault) : Issue :=
  .documentFailure (w.nameOf fs p) ("cannot read document: " ++ f.message (Text.quoted p.text))

/-- What a listener is told of a path: one issue if the document cannot be read, and else a
    word of progress and what it is told of the document by itself. -/
def segment (c : Context) (fs : FileSystem) (w : Workspace) (p : Path) : List Event :=
  match w.load fs p with
  | .error f => [.issue (unreadable w fs p f)]
  | .ok d => .progress ("Linting " ++ d.name) :: (alone c.checks d Memo.start).1.told

/-- What a path adds to the results: a document with one error if it cannot be read, and
    else the results of the document by itself. -/
def contribution (c : Context) (fs : FileSystem) (w : Workspace) (p : Path) : Results :=
  match w.load fs p with
  | .error f => ⟨1, 0, 1, 0, [unreadable w fs p f]⟩
  | .ok d => (alone c.checks d Memo.start).1.results

theorem aloneAt_parts (c : Context) (fs : FileSystem) (w : Workspace) (p : Path) :
    (aloneAt c.checks fs w p Memo.start).1.told = segment c fs w p ∧
      (aloneAt c.checks fs w p Memo.start).1.results = contribution c fs w p := by
  unfold segment contribution
  cases hload : w.load fs p with
  | error f =>
      rw [aloneAt_error hload]
      exact ⟨rfl, rfl⟩
  | ok d =>
      rw [aloneAt_ok hload]
      exact ⟨rfl, rfl⟩

/-- A run over a workspace, by its paths: it halts with the first path that ends it, or with
    the fault of the selection, and otherwise it is all that the paths tell and add. -/
theorem lintWorkspace_parts (l : Listener ρ) (c : Context) (fs : FileSystem) (w : Workspace)
    (told : ρ) :
    let run := lintWorkspace l c.checks fs w (start Memo.start told)
    let ps := (w.selection fs).paths
    run.2 = (ps.findSome? fun p => (aloneAt c.checks fs w p Memo.start).2).or
        ((w.selection fs).fault.map fun f => .workspace (.glob f)) ∧
      (run.2 = none →
        run.1.results = Results.total (ps.map (contribution c fs w)) ∧
          run.1.told = (ps.flatMap (segment c fs w)).foldl l.hear told) := by
  intro run ps
  rcases inTurn_parts (c.steady.aloneAt fs w) l (lintPath_aloneAt l c.checks fs w) ps
    (start Memo.start told) c.settled_start with ⟨hhalt, hparts⟩
  rw [← lintPaths_eq_inTurn] at hhalt hparts
  -- What the parts tell and add are the segments and contributions of the paths.
  have hcontribution : (ps.map fun p => (aloneAt c.checks fs w p Memo.start).1.results)
      = ps.map (contribution c fs w) :=
    List.map_congr_left fun p _ => (aloneAt_parts c fs w p).2
  have hsegment : (ps.flatMap fun p => (aloneAt c.checks fs w p Memo.start).1.told)
      = ps.flatMap (segment c fs w) := by
    rw [List.flatMap_def, List.flatMap_def]
    exact congrArg List.flatten (List.map_congr_left fun p _ => (aloneAt_parts c fs w p).1)
  rw [hcontribution, hsegment] at hparts
  rcases hpaths : lintPaths l c.checks fs w ps (start Memo.start told) with ⟨after, halted⟩
  rw [hpaths] at hhalt hparts
  simp only [] at hhalt hparts
  rw [← hhalt]
  -- The fault of the selection comes up only behind its last path.
  have hrun : run = match halted with
      | some h => (after, some h)
      | none => (after, (w.selection fs).fault.map fun f => .workspace (.glob f)) := by
    have hps : (w.selection fs).paths = ps := rfl
    simp only [run, lintWorkspace, hps, hpaths]
    cases halted <;> rfl
  cases halted with
  | some h =>
      rw [hrun]
      exact ⟨rfl, fun hnone => by cases hnone⟩
  | none =>
      rw [hrun]
      refine ⟨rfl, fun _ => ?_⟩
      rcases hparts rfl with ⟨hresults, htold⟩
      exact ⟨hresults.trans (Results.empty_plus _), htold⟩

theorem alone_documents (c : Context) (d : Document) (m : Memo) :
    (alone c.checks d m).1.results.documents = 1 := by
  unfold alone
  rw [lintDocument_closing, emitAll_results]
  have hblocks := (lintBlocks_account .transcript c.checks d.name (History.candidates d.text)
    (start m []).countDocument).1
  rw [hblocks]
  rfl

/-- The paths are the documents of the run. -/
theorem documents_total (c : Context) (fs : FileSystem) (w : Workspace) (ps : List Path) :
    (Results.total (ps.map (contribution c fs w))).documents = ps.length := by
  induction ps with
  | nil => rfl
  | cons p rest ih =>
      have hown : (contribution c fs w p).documents = 1 := by
        unfold contribution
        cases w.load fs p with
        | error f => rfl
        | ok d => exact alone_documents c d Memo.start
      change (contribution c fs w p).documents
        + (Results.total (rest.map (contribution c fs w))).documents = _
      rw [hown, ih, List.length_cons, Nat.add_comm]

/-- The issues of a run are those that its listener is told. -/
theorem issues_total (c : Context) (fs : FileSystem) (w : Workspace) (ps : List Path) :
    (Results.total (ps.map (contribution c fs w))).issues
      = (ps.flatMap (segment c fs w)).filterMap Event.issue? := by
  have hown (p : Path) :
      (contribution c fs w p).issues = (segment c fs w p).filterMap Event.issue? := by
    unfold contribution segment
    cases w.load fs p with
    | error f => rfl
    | ok d =>
        -- The word of progress is no issue.
        change _ = (alone c.checks d Memo.start).1.told.filterMap Event.issue?
        rw [alone_told, List.filterMap_map]
        exact (List.filterMap_some ..).symm
  rw [Results.total_issues, List.flatMap_map, List.filterMap_flatMap]
  simp only [hown]

/-- Paths at which documents are loaded add what the documents add by themselves, and end a
    run where these do. -/
theorem parts_of_loaded (c : Context) {fs : FileSystem} {w : Workspace} {ps : List Path}
    {ds : List Document} (h : List.Forall₂ (fun p d => w.load fs p = .ok d) ps ds) :
    ps.map (contribution c fs w) = (ds.map fun d => (alone c.checks d Memo.start).1.results) ∧
      ps.findSome? (fun p => (aloneAt c.checks fs w p Memo.start).2)
        = ds.findSome? fun d => (alone c.checks d Memo.start).2 := by
  induction h with
  | nil => exact ⟨rfl, rfl⟩
  | cons hload _ ih =>
      rcases ih with ⟨ihresults, ihhalt⟩
      refine ⟨?_, ?_⟩
      · rw [List.map_cons, List.map_cons, ihresults]
        simp only [contribution, hload]
      · rw [List.findSome?_cons, List.findSome?_cons, ihhalt, aloneAt_ok hload]

/-- A run over a workspace in which all files can be read is a run over the documents that
    are loaded there. -/
theorem lintWorkspace_documents (l : Listener ρ) (c : Context) (fs : FileSystem) (w : Workspace)
    (told : ρ) {ds : List Document}
    (hloaded : List.Forall₂ (fun p d => w.load fs p = .ok d) (w.selection fs).paths ds)
    (hreturns : (lintWorkspace l c.checks fs w (start Memo.start told)).2 = none) :
    let documents := lintDocuments l c.checks ds (start Memo.start told)
    documents.2 = none ∧
      documents.1.results
        = (lintWorkspace l c.checks fs w (start Memo.start told)).1.results := by
  intro documents
  rcases lintWorkspace_parts l c fs w told with ⟨hhalt, hparts⟩
  -- Both runs are taken apart into documents, which are the same one by one.
  rcases inTurn_parts c.steady l (lintDocument_alone l c.checks) ds (start Memo.start told)
    c.settled_start with ⟨hhalt', hparts'⟩
  rw [← lintDocuments_eq_inTurn] at hhalt' hparts'
  rcases parts_of_loaded c hloaded with ⟨hresults, hhalts⟩
  have hnone := (Option.or_eq_none_iff.mp (hhalt.symm.trans hreturns)).1
  have hreturns' : documents.2 = none := hhalt'.trans (hhalts.symm.trans hnone)
  refine ⟨hreturns', ?_⟩
  rw [(hparts hreturns).1, hresults]
  exact (hparts' hreturns').1.trans (Results.empty_plus _)

section Rewrite

variable {fs : FileSystem} {place : List String} {old new : List UInt8} {p : Path}
  {bytes : List UInt8}

/-- A path that leads to another file loads the same document. -/
theorem load_rewrite (w : Workspace) (h : fs.root.at? place = some (.file old))
    (hp : fs.find p = .ok (.file bytes)) (hother : (fs.resolve p).names ≠ place) :
    w.load (fs.rewrite place new) p = w.load fs p := by
  have hfind := FileSystem.find_rewrite h new hp
  rw [if_neg hother, ← hp] at hfind
  have hread : (fs.rewrite place new).read p = fs.read p := by
    unfold FileSystem.read
    rw [hfind]
  unfold Workspace.load
  rw [hread]
  rfl

/-- A path that leads to a file whose bytes are no text any more. -/
theorem load_rewrite_error (w : Workspace) (h : fs.root.at? place = some (.file old))
    (hp : fs.find p = .ok (.file bytes)) (hplace : (fs.resolve p).names = place)
    {f : Utf8.Fault} (hnew : Utf8.decode (new.map UInt8.toNat) = .error f) :
    w.load (fs.rewrite place new) p = .error (.undecodable f) := by
  have hfind := FileSystem.find_rewrite h new hp
  rw [if_pos hplace] at hfind
  have hread : (fs.rewrite place new).read p = .error (.undecodable f) := by
    unfold FileSystem.read
    simp only [hfind, bind, Except.bind, hnew]
  unfold Workspace.load
  rw [hread]
  rfl

/-- What a path tells and adds, and whether it ends the run, if one file of the workspace
    cannot be read any more: a path to this file is an issue, and all others stay. -/
theorem parts_rewrite (c : Context) (w : Workspace) (h : fs.root.at? place = some (.file old))
    {f : Utf8.Fault} (hnew : Utf8.decode (new.map UInt8.toNat) = .error f)
    (hp : p ∈ (w.selection fs).paths) :
    let after := fs.rewrite place new
    let i := unreadable w fs p (.undecodable f)
    if (fs.resolve p).names = place then
      segment c after w p = [.issue i] ∧ contribution c after w p = ⟨1, 0, 1, 0, [i]⟩ ∧
        (aloneAt c.checks after w p Memo.start).2 = none
    else
      segment c after w p = segment c fs w p ∧ contribution c after w p = contribution c fs w p ∧
        (aloneAt c.checks after w p Memo.start).2 = (aloneAt c.checks fs w p Memo.start).2 := by
  intro after i
  rcases Workspace.load_of_mem_selection hp with ⟨bytes, hfind, _⟩
  split
  · rename_i hplace
    have hload := load_rewrite_error w h hfind hplace hnew
    unfold segment contribution
    rw [hload, aloneAt_error hload]
    exact ⟨rfl, rfl, rfl⟩
  · -- A path to another file loads the same document, and so all is as before.
    rename_i hother
    have hload : w.load after p = w.load fs p := load_rewrite w h hfind hother
    have hname (g : ReadFault) : unreadable w after p g = unreadable w fs p g := rfl
    have halone : aloneAt c.checks after w p Memo.start = aloneAt c.checks fs w p Memo.start := by
      unfold aloneAt lintPath
      rw [hload]
      rfl
    unfold segment contribution
    simp only [hload, hname, halone, and_self]

/-- Which files a workspace selects does not depend on what is in them. -/
theorem selection_rewrite (w : Workspace) (h : fs.root.at? place = some (.file old))
    (new : List UInt8) : w.selection (fs.rewrite place new) = w.selection fs := by
  rw [← w.selection_outline (fs.rewrite place new), ← w.selection_outline fs]
  exact congrArg w.selection (FileSystem.outline_rewrite h new)

/-- A file that cannot be read any more does not end the run. -/
theorem returns_rewrite (l : Listener ρ) (c : Context) (w : Workspace) (told : ρ)
    (h : fs.root.at? place = some (.file old)) {f : Utf8.Fault}
    (hnew : Utf8.decode (new.map UInt8.toNat) = .error f)
    (hreturns : (lintWorkspace l c.checks fs w (start Memo.start told)).2 = none) :
    (lintWorkspace l c.checks (fs.rewrite place new) w (start Memo.start told)).2 = none := by
  have hbefore := Option.or_eq_none_iff.mp
    ((lintWorkspace_parts l c fs w told).1.symm.trans hreturns)
  rw [(lintWorkspace_parts l c _ w told).1, selection_rewrite w h]
  refine Option.or_eq_none_iff.mpr ⟨List.findSome?_eq_none_iff.mpr fun p hp => ?_, hbefore.2⟩
  -- A path ends the run after the rewrite only if it did so before.
  have hthere := parts_rewrite c w h hnew hp
  simp only [] at hthere
  split at hthere
  · exact hthere.2.2
  · exact hthere.2.2.trans (List.findSome?_eq_none_iff.mp hbefore.1 p hp)

end Rewrite

/-- A run over a workspace that returns, next to the runs without a listener, over the
    documents that are loaded, and with one file that cannot be read any more.

    Its listener is told one segment for each path, in order, and its results are what the
    paths contribute; each path is one document. What is loaded at a path depends on the
    bytes there, and if these are no text, the path is one issue on line 0. The same results
    come about if nobody listens, and if all files can be read, from a run over the documents.
    If a file is replaced by one that is no text, the run still returns and goes to the same
    paths; those to this file become one issue each, and all others tell and contribute what
    they did. -/
theorem lintWorkspace_segments (l : Listener ρ) (c : Context) (fs : FileSystem) (w : Workspace)
    (told : ρ)
    (hreturns : (lintWorkspace l c.checks fs w (start Memo.start told)).2 = none) :
    let run := lintWorkspace l c.checks fs w (start Memo.start told)
    let ps := (w.selection fs).paths
    run.1.told = (ps.flatMap (segment c fs w)).foldl l.hear told ∧
      run.1.results = Results.total (ps.map (contribution c fs w)) ∧
      run.1.results.documents = ps.length ∧
      run.1.results.issues = (ps.flatMap (segment c fs w)).filterMap Event.issue? ∧
      (∀ p ∈ ps, ∃ bytes, fs.find p = .ok (.file bytes) ∧
        w.load fs p = w.documentOf fs p bytes) ∧
      (let silent := lintWorkspace (Listener.silent : Listener Unit) c.checks fs w
          (start Memo.start ())
       silent.2 = none ∧ silent.1.results = run.1.results) ∧
      (∀ ds, List.Forall₂ (fun p d => w.load fs p = .ok d) ps ds →
        let documents := lintDocuments l c.checks ds (start Memo.start told)
        documents.2 = none ∧ documents.1.results = run.1.results) ∧
      ∀ place old new f, fs.root.at? place = some (.file old) →
        Utf8.decode (new.map UInt8.toNat) = .error f →
        let after := fs.rewrite place new
        let other := lintWorkspace l c.checks after w (start Memo.start told)
        other.2 = none ∧ (w.selection after).paths = ps ∧
          other.1.told = (ps.flatMap (segment c after w)).foldl l.hear told ∧
          other.1.results = Results.total (ps.map (contribution c after w)) ∧
          ∀ p ∈ ps,
            if (fs.resolve p).names = place then
              segment c after w p = [.issue (unreadable w fs p (.undecodable f))] ∧
                contribution c after w p
                  = ⟨1, 0, 1, 0, [unreadable w fs p (.undecodable f)]⟩
            else
              segment c after w p = segment c fs w p ∧
                contribution c after w p = contribution c fs w p := by
  intro run ps
  rcases lintWorkspace_parts l c fs w told with ⟨hhalt, hparts⟩
  rcases lintWorkspace_parts (Listener.silent : Listener Unit) c fs w () with ⟨hhalt', hparts'⟩
  rcases hparts hreturns with ⟨hresults, htold⟩
  have hsilent := hhalt'.trans (hhalt.symm.trans hreturns)
  refine ⟨htold, hresults, ?_, ?_, fun p hp => Workspace.load_of_mem_selection hp,
    ⟨hsilent, (hparts' hsilent).1.trans hresults.symm⟩,
    fun ds hds => lintWorkspace_documents l c fs w told hds hreturns, ?_⟩
  · rw [hresults, documents_total]
  · rw [hresults, issues_total]
  · -- Each path stands as it stood or leads to the file that is replaced.
    intro place old new f hold hnew after other
    have hselection : w.selection after = w.selection fs := selection_rewrite w hold new
    have hreturnsA : other.2 = none := returns_rewrite l c w told hold hnew hreturns
    have hpartsA := (lintWorkspace_parts l c after w told).2
    rw [hselection] at hpartsA
    refine ⟨hreturnsA, congrArg Selection.paths hselection, (hpartsA hreturnsA).2,
      (hpartsA hreturnsA).1, fun p hp => ?_⟩
    have hthere := parts_rewrite c w hold hnew hp
    simp only [] at hthere
    split at hthere
    · rename_i hplace
      rw [if_pos hplace]
      exact ⟨hthere.1, hthere.2.1⟩
    · rename_i hother
      rw [if_neg hother]
      exact ⟨hthere.1, hthere.2.1⟩

/-- Of two files, the second one is replaced by a byte that is no text: the word of progress
    for it goes, and an error comes. -/
theorem lintWorkspace_segments_unreadable :
    let fs : FileSystem := ⟨.directory [("a.md", .file []), ("b.md", .file [])], []⟩
    let w : Workspace := ⟨⟨"/", []⟩, ["a.md", "b.md"], [], []⟩
    let c : Context := ⟨Options.default, [], none, none, some (.ofIndex [])⟩
    let run := lintWorkspace .transcript c.checks fs w (start Memo.start [])
    let other := lintWorkspace .transcript c.checks (fs.rewrite ["b.md"] [255]) w
      (start Memo.start [])
    let i := unreadable w fs ⟨"/", ["b.md"]⟩ (.undecodable ⟨0, 255, 1, .start⟩)
    run.2 = none ∧ run.1.results.documents = (w.selection fs).paths.length ∧
      run.1.told = [.progress "Linting a.md", .progress "Linting b.md"] ∧
      other.2 = none ∧ other.1.told = [.progress "Linting a.md", .issue i] ∧
      other.1.results = ⟨2, 0, 1, 0, [i]⟩ := by
  intro fs w c run other i
  -- Only the first run is looked at; the theorem speaks of the second one.
  have hreturns : run.2 = none := by decide +kernel
  rcases lintWorkspace_segments .transcript c fs w [] hreturns
    with ⟨_, _, hdocuments, _, _, _, _, hrewrite⟩
  rcases hrewrite ["b.md"] [] [255] ⟨0, 255, 1, .start⟩ rfl (by decide +kernel) with ⟨hother, _⟩
  exact ⟨hreturns, hdocuments, by decide +kernel, hother, by decide +kernel, by decide +kernel⟩

end Run

end Annals
