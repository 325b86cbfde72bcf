import Annals.Proofs.Lint.Chain

/-!
# The Trace of a Run

What a listener is told, as a list of events, and how a long run is put together from
short ones.

A run never looks at what it has counted or told so far; it only adds to it. So it makes
no difference to a run which listener it has, and on which results it goes on. `onto`
says this of single runs: a run that starts with nothing, and writes down every event,
can be put onto any results, and its events can be told to any listener, and this is the
run that would have been made there. All facts about what is told are facts about the
events that are written down.

What does pass from one document to the next is the state that the checks share. It may
change on the way as long as it makes no difference to what documents are worth, and
`Steady` is what has to be known of it. A run over paths or over documents is then all of
them by themselves, one after another.

## Main definitions

* `Event`: Something that a listener is told.
* `Listener.transcript`: The listener that writes everything down.
* `Run.onto`: A run put onto results, and told to another listener.
* `Run.alone`, `Run.aloneAt`: A document by itself, and what is at a path by itself.
* `Run.inTurn`: Work on one thing after another.
* `Run.Steady`: States that make no difference to the parts of a run.

## Theorems

* `lintBlocks_onto`, `lintDocument_onto`, `lintPath_onto`: A run goes on in the same way
  wherever it starts.
* `alone_told`: The events of a document are its issues.
* `lintDocument_alone`, `lintPath_aloneAt`: A part of a run by itself.
* `inTurn_parts`: A long run from its parts.
-/

namespace Annals

/-- Something that a listener is told. -/
inductive Event where
  | progress (message : String)
  | issue (i : Issue)
  deriving DecidableEq, Repr

/-- The issue of an event, if it is one. -/
def Event.issue? : Event → Option Issue
  | .progress _ => none
  | .issue i => some i

namespace Listener

variable {ρ ρ' : Type}

/-- What a listener makes of an event. -/
def hear (l : Listener ρ) (told : ρ) : Event → ρ
  | .progress message => l.progress message told
  | .issue i => l.issue i told

/-- The listener that writes everything down. -/
def transcript : Listener (List Event) :=
  ⟨fun i told => told ++ [.issue i], fun message told => told ++ [.progress message]⟩

/-- What one listener was told, in the words of another. -/
structure Translates (l : Listener ρ) (l' : Listener ρ') (f : ρ → ρ') : Prop where
  issue : ∀ i told, f (l.issue i told) = l'.issue i (f told)
  progress : ∀ message told, f (l.progress message told) = l'.progress message (f told)

/-- What is written down can be told to any listener afterwards. -/
theorem translates_hear (l : Listener ρ) (told : ρ) :
    transcript.Translates l fun events => events.foldl l.hear told := by
  constructor
  · intro i events
    exact List.foldl_append
  · intro message events
    exact List.foldl_append

theorem foldl_transcript (before events : List Event) :
    events.foldl transcript.hear before = before ++ events := by
  induction events generalizing before with
  | nil => exact (List.append_nil before).symm
  | cons e rest ih =>
      have hstep : transcript.hear before e = before ++ [e] := by
        cases e <;> rfl
      rw [List.foldl_cons, hstep, ih, List.append_assoc]
      rfl

end Listener

namespace Results

theorem plus_add (r s : Results) (i : Issue) : (r.plus s).add i = r.plus (s.add i) := by
  unfold add plus
  cases i.severity <;> simp only [Nat.add_assoc, List.append_assoc]

end Results

namespace Run

variable {σ ρ ρ' : Type} {l : Listener ρ} {l' : Listener ρ'} {f : ρ → ρ'}

/-- A run put onto results, and told in other words. -/
def onto (base : Results) (f : ρ → ρ') (r : Run σ ρ) : Run σ ρ' :=
  ⟨base.plus r.results, r.shared, f r.told⟩

theorem onto_emitAll (h : l.Translates l' f) (base : Results) (found : List Issue)
    (r : Run σ ρ) : emitAll l' found (r.onto base f) = (emitAll l found r).onto base f := by
  induction found generalizing r with
  | nil => rfl
  | cons i rest ih =>
      -- An issue is added behind those of the base, and told in the other words.
      have hstep : (r.onto base f).emit l' i = (r.emit l i).onto base f := by
        unfold emit onto
        rw [Results.plus_add, h.issue]
      change emitAll l' rest ((r.onto base f).emit l' i) = (emitAll l rest (r.emit l i)).onto base f
      rw [hstep, ih]

/-- The candidates of a document, on results and to a listener of any kind. The induction is
    on the candidates. -/
theorem lintBlocks_onto (h : l.Translates l' f) (checks : List (Check σ)) (file : String)
    (base : Results) (cs : List History.Candidate) (r : Run σ ρ) :
    lintBlocks l' checks file cs (r.onto base f)
      = ((lintBlocks l checks file cs r).1.onto base f, (lintBlocks l checks file cs r).2) := by
  induction cs generalizing r with
  | nil => rfl
  | cons c rest ih =>
      -- The checks see the state alone, and that is the same in both runs.
      rcases ho : lintBlock checks file c r.shared with ⟨o, s⟩
      have hown : lintBlock checks file c (r.onto base f).countBlock.shared = (o, s) := ho
      have hcount : ({ (r.onto base f).countBlock with shared := s } : Run σ ρ')
          = ({ r.countBlock with shared := s } : Run σ ρ).onto base f := by
        unfold onto countBlock Results.plus
        simp only [Nat.add_assoc]
      have hblock : lintBlock checks file c r.countBlock.shared = (o, s) := ho
      simp only [lintBlocks, hown, hblock, hcount, onto_emitAll h]
      cases o.fault with
      | some fault => rfl
      | none => exact ih _

theorem lintDocument_onto (h : l.Translates l' f) (checks : List (Check σ)) (base : Results)
    (d : Document) (r : Run σ ρ) :
    lintDocument l' checks d (r.onto base f)
      = ((lintDocument l checks d r).1.onto base f, (lintDocument l checks d r).2) := by
  have hcount : (r.onto base f).countDocument = r.countDocument.onto base f := by
    unfold onto countDocument Results.plus
    simp only [Nat.add_assoc]
  rw [lintDocument_closing, lintDocument_closing, hcount, lintBlocks_onto h, onto_emitAll h]

theorem lintPath_onto (h : l.Translates l' f) (checks : List (Check σ)) (fs : FileSystem)
    (w : Workspace) (base : Results) (p : Path) (r : Run σ ρ) :
    lintPath l' checks fs w p (r.onto base f)
      = ((lintPath l checks fs w p r).1.onto base f, (lintPath l checks fs w p r).2) := by
  unfold lintPath
  cases w.load fs p with
  | error fault =>
      -- One issue and no word of progress.
      simp only [emit, countDocument, onto, h.issue, ← Results.plus_add]
      simp only [Results.plus, Nat.add_assoc]
  | ok d =>
      have hprogress : ({ r.onto base f with
            told := l'.progress ("Linting " ++ d.name) (r.onto base f).told } : Run σ ρ')
          = ({ r with told := l.progress ("Linting " ++ d.name) r.told } : Run σ ρ).onto base f := by
        unfold onto
        rw [h.progress]
      simp only [hprogress]
      exact lintDocument_onto h checks base d _

/-- A document by itself, with everything written down. -/
def alone (checks : List (Check σ)) (d : Document) (s : σ) :
    Run σ (List Event) × Option Halt :=
  lintDocument .transcript checks d (start s [])

/-- What is at a path of a workspace by itself, with everything written down. -/
def aloneAt (checks : List (Check σ)) (fs : FileSystem) (w : Workspace) (p : Path) (s : σ) :
    Run σ (List Event) × Option Halt :=
  lintPath .transcript checks fs w p (start s [])

theorem start_onto (l : Listener ρ) (r : Run σ ρ) :
    (start r.shared []).onto r.results (fun events => events.foldl l.hear r.told) = r := by
  unfold onto start
  rw [Results.plus_empty]
  rfl

/-- A document anywhere in a run is the document by itself, put onto the run. -/
theorem lintDocument_alone (l : Listener ρ) (checks : List (Check σ)) (d : Document)
    (r : Run σ ρ) :
    lintDocument l checks d r
      = ((alone checks d r.shared).1.onto r.results fun events => events.foldl l.hear r.told,
        (alone checks d r.shared).2) := by
  have honto := lintDocument_onto (l.translates_hear r.told) checks r.results d (start r.shared [])
  rw [start_onto] at honto
  exact honto

/-- A path anywhere in a run is the path by itself, put onto the run. -/
theorem lintPath_aloneAt (l : Listener ρ) (checks : List (Check σ)) (fs : FileSystem)
    (w : Workspace) (p : Path) (r : Run σ ρ) :
    lintPath l checks fs w p r
      = ((aloneAt checks fs w p r.shared).1.onto r.results fun events =>
          events.foldl l.hear r.told,
        (aloneAt checks fs w p r.shared).2) := by
  have honto := lintPath_onto (l.translates_hear r.told) checks fs w r.results p
    (start r.shared [])
  rw [start_onto] at honto
  exact honto

/-- The events of a document are its issues, in the order in which they were found. -/
theorem alone_told (checks : List (Check σ)) (d : Document) (s : σ) :
    (alone checks d s).1.told = (alone checks d s).1.results.issues.map .issue := by
  -- The issues of the candidates are told first, and then the one that closes the document.
  have htranscript (found : List Issue) (events : List Event) :
      found.foldl (fun told i => Listener.transcript.issue i told) events
        = events ++ found.map .issue := by
    rw [← Listener.foldl_transcript, List.foldl_map]
    rfl
  rcases lintBlocks_account .transcript checks d.name (History.candidates d.text)
    (start s []).countDocument with ⟨hresults, htold, _⟩
  unfold alone
  rw [lintDocument_closing, emitAll_told, emitAll_results, htold, hresults, htranscript,
    htranscript]
  simp only [Results.grown, countDocument, start, Results.empty, List.nil_append, List.map_append]

/-- The document at a path that can be read, by itself: one word of progress first, and then
    the document. -/
theorem aloneAt_ok {fs : FileSystem} {w : Workspace} {p : Path} {d : Document}
    (h : w.load fs p = .ok d) (checks : List (Check σ)) (s : σ) :
    aloneAt checks fs w p s
      = ({ (alone checks d s).1 with
            told := .progress ("Linting " ++ d.name) :: (alone checks d s).1.told },
          (alone checks d s).2) := by
  unfold aloneAt lintPath
  rw [h]
  simp only []
  rw [lintDocument_alone]
  simp only [start, onto, Listener.foldl_transcript, Results.empty_plus]
  rfl

/-- The document at a path that cannot be read, by itself: it is counted, and there is one
    issue and no word of progress. -/
theorem aloneAt_error {fs : FileSystem} {w : Workspace} {p : Path} {f : ReadFault}
    (h : w.load fs p = .error f) (checks : List (Check σ)) (s : σ) :
    let i := Issue.documentFailure (w.nameOf fs p)
      ("cannot read document: " ++ f.message (Text.quoted p.text))
    aloneAt checks fs w p s = (⟨⟨1, 0, 1, 0, [i]⟩, s, [.issue i]⟩, none) := by
  unfold aloneAt lintPath
  rw [h]
  rfl

variable {α : Type}

/-- Work on one thing after another, up to one that ends the run. -/
def inTurn (step : α → Run σ ρ → Run σ ρ × Option Halt) :
    List α → Run σ ρ → Run σ ρ × Option Halt
  | [], r => (r, none)
  | a :: rest, r =>
    match step a r with
    | (r, some h) => (r, some h)
    | (r, none) => inTurn step rest r

theorem lintDocuments_eq_inTurn (l : Listener ρ) (checks : List (Check σ)) (ds : List Document)
    (r : Run σ ρ) : lintDocuments l checks ds r = inTurn (lintDocument l checks) ds r := by
  induction ds generalizing r with
  | nil => rfl
  | cons d rest ih =>
      rcases hd : lintDocument l checks d r with ⟨r', _ | h⟩
      · simp only [lintDocuments, inTurn, hd, ih]
      · simp only [lintDocuments, inTurn, hd]

theorem lintPaths_eq_inTurn (l : Listener ρ) (checks : List (Check σ)) (fs : FileSystem)
    (w : Workspace) (ps : List Path) (r : Run σ ρ) :
    lintPaths l checks fs w ps r = inTurn (lintPath l checks fs w) ps r := by
  induction ps generalizing r with
  | nil => rfl
  | cons p rest ih =>
      rcases hp : lintPath l checks fs w p r with ⟨r', _ | h⟩
      · simp only [lintPaths, inTurn, hp, ih]
      · simp only [lintPaths, inTurn, hp]

/-- Two runs that differ at most in the state that they leave behind. -/
structure Agree (a b : Run σ (List Event) × Option Halt) : Prop where
  results : a.1.results = b.1.results
  told : a.1.told = b.1.told
  halt : a.2 = b.2

/-- States that make no difference to parts of a run: each part by itself comes to the same
    from all of them, and if it does not end the run, it leaves such a state behind. -/
structure Steady (part : α → σ → Run σ (List Event) × Option Halt) (s₀ : σ)
    (holds : σ → Prop) : Prop where
  agree : ∀ a s, holds s → Agree (part a s) (part a s₀)
  after : ∀ a s, holds s → (part a s).2 = none → holds (part a s).1.shared

/-- Work that is made of parts, each put onto the run so far, is all of the parts by
    themselves put onto it, up to one that ends the run. The induction is on the parts; the
    state stays one that makes no difference to them. -/
theorem inTurn_parts {part : α → σ → Run σ (List Event) × Option Halt} {s₀ : σ}
    {holds : σ → Prop} (h : Steady part s₀ holds) (l : Listener ρ)
    {step : α → Run σ ρ → Run σ ρ × Option Halt}
    (hstep : ∀ a r, step a r
      = ((part a r.shared).1.onto r.results fun events => events.foldl l.hear r.told,
        (part a r.shared).2))
    (as : List α) (r : Run σ ρ) (hr : holds r.shared) :
    let run := inTurn step as r
    run.2 = as.findSome? (fun a => (part a s₀).2) ∧
      (run.2 = none →
        run.1.results
            = r.results.plus (Results.total (as.map fun a => (part a s₀).1.results)) ∧
          run.1.told = (as.flatMap fun a => (part a s₀).1.told).foldl l.hear r.told) := by
  induction as generalizing r with
  | nil => exact ⟨rfl, fun _ => ⟨(Results.plus_empty _).symm, rfl⟩⟩
  | cons a rest ih =>
      let r' := (part a r.shared).1.onto r.results fun events => events.foldl l.hear r.told
      have hown : step a r = (r', (part a r.shared).2) := hstep a r
      have hagree := h.agree a r.shared hr
      simp only [inTurn, hown, List.findSome?_cons, ← hagree.halt]
      cases hnone : (part a r.shared).2 with
      | some halted => exact ⟨rfl, fun hreturns => by cases hreturns⟩
      | none =>
          -- The part by itself was run from the state so far; `agree` puts the start in its place.
          rcases ih r' (h.after a r.shared hr hnone) with ⟨ihhalt, ihrun⟩
          refine ⟨ihhalt, fun hreturns => ?_⟩
          rcases ihrun hreturns with ⟨ihresults, ihtold⟩
          refine ⟨?_, ?_⟩
          · rw [ihresults, List.map_cons, ← hagree.results]
            exact Results.plus_assoc ..
          · rw [ihtold, List.flatMap_cons, List.foldl_append, ← hagree.told]
            rfl

/-- For documents the results are enough, since the events of a document are its issues. -/
theorem agree_alone {checks : List (Check σ)} {d : Document} {s s' : σ}
    (hresults : (alone checks d s).1.results = (alone checks d s').1.results)
    (hhalt : (alone checks d s).2 = (alone checks d s').2) :
    Agree (alone checks d s) (alone checks d s') := by
  refine ⟨hresults, ?_, hhalt⟩
  rw [alone_told, alone_told, hresults]

/-- What makes no difference to documents makes none to paths. What cannot be read does not
    touch the state at all. -/
theorem Steady.aloneAt {checks : List (Check σ)} {s₀ : σ} {holds : σ → Prop}
    (h : Steady (alone checks) s₀ holds) (fs : FileSystem) (w : Workspace) :
    Steady (aloneAt checks fs w) s₀ holds := by
  constructor
  · intro p s hs
    cases hload : w.load fs p with
    | error f =>
        rw [aloneAt_error hload, aloneAt_error hload]
        exact ⟨rfl, rfl, rfl⟩
    | ok d =>
        rw [aloneAt_ok hload, aloneAt_ok hload]
        have hagree := h.agree d s hs
        exact ⟨hagree.results, congrArg (_ :: ·) hagree.told, hagree.halt⟩
  · intro p s hs
    cases hload : w.load fs p with
    | error f =>
        rw [aloneAt_error hload]
        exact fun _ => hs
    | ok d =>
        rw [aloneAt_ok hload]
        exact h.after d s hs

end Run

end Annals
