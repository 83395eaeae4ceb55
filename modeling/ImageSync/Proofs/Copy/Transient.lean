import ImageSync.Copy.Tool
import ImageSync.Proofs.Text.Excerpt

/-!
# Failures that may pass

What a tool complained about decides whether another attempt may help. Not all of it is looked at:
the error of a copy has an excerpt of the complaint, the last part of it that fits. So a marker
counts if it stands there, in letters of any case, and one that stands too far before the end does
not.

## Main definitions

* `CopyError.HasMarker text`: whether a text holds one of the transient markers.

## Main statements

* `CopyError.hasMarker_trim`: white space around a text does not matter.
* `CopyError.hasMarker_tail_iff`: which markers an excerpt keeps.
* `Tools.copy_of_authFault`: no tool is started without its auth files.
* `Tools.copy_transient_iff`: which failures of a tool may pass.
* `Tools.copy_not_transient_of_long`: a marker at the beginning of a long complaint.
-/

namespace ImageSync

open Text

variable {σ : Type}

namespace CopyError

/-- Whether a text, in any case of its letters, holds one of the transient markers. -/
def HasMarker (text : List Char) : Prop :=
  ∃ marker ∈ transientMarkers, marker.toList <:+: lower text

theorem hasTransientMarker_iff {text : List Char} :
    hasTransientMarker text = true ↔ HasMarker text := by
  simp [hasTransientMarker, HasMarker, occurs_iff]

/-- A part of a text holds no marker that the text does not hold. -/
theorem HasMarker.of_part {part text : List Char} (h : HasMarker part) (hpart : part <:+: text) :
    HasMarker text := by
  obtain ⟨marker, hmarker, hoccurs⟩ := h
  obtain ⟨before, behind, rfl⟩ := hpart
  refine ⟨marker, hmarker, hoccurs.trans ⟨lower before, lower behind, ?_⟩⟩
  rw [lower_append, lower_append]

/-! ## What stands around a marker -/

/-- White space and dots stand at no end of a marker. -/
def isMargin (c : Char) : Bool := isBlank c || c == '.'

theorem not_isMargin_of_marker : ∀ marker ∈ transientMarkers, marker.toList ≠ [] ∧
    marker.toList.head?.all (!isMargin ·) ∧ marker.toList.getLast?.all (!isMargin ·) := by
  decide

/-- White space and dots are in lower case. -/
theorem lower_eq_self {cs : List Char} (h : ∀ c ∈ cs, isMargin c = true) : lower cs = cs := by
  have hchar (c : Char) (hc : isMargin c = true) : lowerChar c = [c] := by
    simp only [isMargin, Bool.or_eq_true, beq_iff_eq] at hc
    rcases hc with hc | rfl
    · exact forall_of_isBlank (P := fun c => lowerChar c = [c]) (by decide +kernel) hc
    · decide
  induction cs with
  | nil => rfl
  | cons c cs ih =>
      obtain ⟨hc, hcs⟩ := List.forall_mem_cons.1 h
      have hrest : cs.flatMap lowerChar = cs := ih hcs
      rw [lower, List.flatMap_cons, hchar c hc, hrest, List.singleton_append]

theorem hasMarker_append_right {front : List Char} (h : ∀ c ∈ front, isMargin c = true)
    (text : List Char) : HasMarker (front ++ text) ↔ HasMarker text := by
  refine exists_congr fun marker => and_congr_right fun hmarker => ?_
  obtain ⟨hne, hhead, -⟩ := not_isMargin_of_marker marker hmarker
  rw [lower_append, lower_eq_self h, infix_append_iff_right hne fun c hc hmem => ?_]
  simpa [h c hmem] using (Option.all_eq_true _ _).1 hhead c hc

theorem hasMarker_append_left {back : List Char} (h : ∀ c ∈ back, isMargin c = true)
    (text : List Char) : HasMarker (text ++ back) ↔ HasMarker text := by
  refine exists_congr fun marker => and_congr_right fun hmarker => ?_
  obtain ⟨hne, -, hlast⟩ := not_isMargin_of_marker marker hmarker
  rw [lower_append, lower_eq_self h, infix_append_iff_left hne fun c hc hmem => ?_]
  simpa [h c hmem] using (Option.all_eq_true _ _).1 hlast c hc

/-- A trimmed text holds the markers of the text. -/
theorem hasMarker_trim (text : List Char) : HasMarker (trim isBlank text) ↔ HasMarker text := by
  obtain ⟨front, back, htext, hfront, hback⟩ := exists_trim isBlank text
  calc HasMarker (trim isBlank text)
      ↔ HasMarker (front ++ (trim isBlank text ++ back)) := by
        rw [hasMarker_append_right fun c hc => by simp [isMargin, hfront c hc],
          hasMarker_append_left fun c hc => by simp [isMargin, hback c hc]]
    _ ↔ HasMarker text := by rw [← htext]

/-- An excerpt holds the markers of the parts at the end of a text that fit. -/
theorem hasMarker_tail_iff (n : Nat) (text : List Char) :
    HasMarker (Excerpt.tail n text) ↔
      ∃ part, part <:+ trim isBlank text ∧ Utf8.size part ≤ n ∧ HasMarker part := by
  rw [Excerpt.tail]
  split
  · next hsize =>
    exact ⟨fun h => ⟨_, List.suffix_rfl, hsize, h⟩,
      fun ⟨_, hpart, _, h⟩ => h.of_part hpart.isInfix⟩
  · rw [hasMarker_append_right (List.all_eq_true.1 (by decide))]
    constructor
    · intro h
      obtain ⟨hpart, hsize⟩ := Excerpt.suffix_fittingEnd_iff.1 List.suffix_rfl
      exact ⟨_, hpart, hsize, h⟩
    · rintro ⟨part, hpart, hsize, h⟩
      exact h.of_part (Excerpt.suffix_fittingEnd_iff.2 ⟨hpart, hsize⟩).isInfix

end CopyError

namespace Tools

/-- Where an auth file cannot be written no tool is started, and another attempt does not help. -/
theorem copy_of_authFault (t : Tools σ) (program : String) (job : CopyJob) (tree : FileTree) (s : σ)
    {e : SystemError} (hfault : t.authFault? job s = some e) :
    ∃ reply, t.copy program job tree s = (reply, tree, s) ∧
      reply.result = .error (.authFile e) ∧ (CopyError.authFile e).isTransient = false := by
  simp only [copy, hfault]
  exact ⟨_, rfl, rfl, rfl⟩

/-- A tool that ends without success fails the copy with an excerpt of its complaint. -/
theorem copy_of_start (t : Tools σ) (program : String) (job : CopyJob) (tree : FileTree) (s : σ)
    {run : ToolRun} {tree' : FileTree} {s' : σ} (hwritten : t.authFault? job s = none)
    (hstart : t.start (job.call program t.authPlace) tree s = (.ok run, tree', s'))
    (hfailed : run.ended.isSuccess = false) :
    ∃ reply, t.copy program job tree s = (reply, tree', s') ∧
      reply.result = .error (.toolFailed run.ended.text
        (String.ofList (Excerpt.tail maxExcerpt (Utf8.decodeLossy run.stderr)))) := by
  simp only [copy, hwritten, hstart, outcome, hfailed, Bool.false_eq_true, if_false]
  exact ⟨_, rfl, rfl⟩

/-- The failure of a tool may pass if a transient marker stands in the last part of its complaint,
of at most 2000 bytes. So there is a marker in the complaint of each failure that may pass, and a
short complaint with a marker is one of a failure that may pass. -/
theorem copy_transient_iff (t : Tools σ) (program : String) (job : CopyJob) (tree : FileTree)
    (s : σ) {run : ToolRun} {tree' : FileTree} {s' : σ} (hwritten : t.authFault? job s = none)
    (hstart : t.start (job.call program t.authPlace) tree s = (.ok run, tree', s'))
    (hfailed : run.ended.isSuccess = false) :
    ∃ reply excerpt, t.copy program job tree s = (reply, tree', s') ∧
      reply.result = .error (.toolFailed run.ended.text excerpt) ∧
      ((CopyError.toolFailed run.ended.text excerpt).isTransient = true ↔
        ∃ part, part <:+ trim isBlank (Utf8.decodeLossy run.stderr) ∧ Utf8.size part ≤ 2000 ∧
          CopyError.HasMarker part) ∧
      ((CopyError.toolFailed run.ended.text excerpt).isTransient = true →
        CopyError.HasMarker (Utf8.decodeLossy run.stderr)) ∧
      (Utf8.size (trim isBlank (Utf8.decodeLossy run.stderr)) ≤ 2000 →
        CopyError.HasMarker (Utf8.decodeLossy run.stderr) →
        (CopyError.toolFailed run.ended.text excerpt).isTransient = true) := by
  obtain ⟨reply, hcopy, hresult⟩ := copy_of_start t program job tree s hwritten hstart hfailed
  refine ⟨reply, _, hcopy, hresult, ?_⟩
  have htransient : (CopyError.toolFailed run.ended.text (String.ofList
      (Excerpt.tail maxExcerpt (Utf8.decodeLossy run.stderr)))).isTransient = true ↔
      ∃ part, part <:+ trim isBlank (Utf8.decodeLossy run.stderr) ∧ Utf8.size part ≤ 2000 ∧
        CopyError.HasMarker part := by
    rw [CopyError.isTransient, String.toList_ofList, CopyError.hasTransientMarker_iff,
      CopyError.hasMarker_tail_iff, maxExcerpt]
  refine ⟨htransient, fun h => ?_, fun hsize h => ?_⟩
  · obtain ⟨part, hpart, -, hmarker⟩ := htransient.1 h
    exact (CopyError.hasMarker_trim _).1 (hmarker.of_part hpart.isInfix)
  · exact htransient.2 ⟨_, List.suffix_rfl, hsize, (CopyError.hasMarker_trim _).2 h⟩

namespace Complaining

/-- A run that fails with a complaint. -/
def run (complaint : List Char) : ToolRun :=
  { ended := .exit 1, stderr := Utf8.encode complaint }

/-- Tools of which each run fails so. -/
def tools (complaint : List Char) : Tools Unit where
  authPlace := fun _ => "/tmp/auth.json"
  start := fun _ tree state => (.ok (run complaint), tree, state)

def job : CopyJob where
  source := .inRegistry ⟨"quay.io", "app", some "v1", none⟩
  destination := .inRegistry ⟨"registry.test", "app", some "v1", none⟩
  sourceAccess := {}
  destinationAccess := {}
  options := {}

def files : FileTree := .empty

/-- A marker behind other words. -/
def short : List Char := "dial tcp 10.0.0.1:443: Connection Refused\n".toList

/-- A marker before 2000 other bytes. -/
def long : List Char := "connection refused".toList ++ List.replicate 2000 'x'

theorem hasMarker_long : CopyError.HasMarker long := by
  have hmarker : CopyError.HasMarker "connection refused".toList :=
    CopyError.hasTransientMarker_iff.1 (by decide)
  exact hmarker.of_part (List.prefix_append _ _).isInfix

/-- A text of one letter holds no marker. -/
theorem not_hasMarker_replicate (n : Nat) : ¬CopyError.HasMarker (List.replicate n 'x') := by
  rintro ⟨marker, hmarker, hoccurs⟩
  have hlower : lower (List.replicate n 'x') = List.replicate n 'x' := by
    rw [lower, List.flatMap_replicate]
    simp [lowerChar]
  have hother : ∀ marker ∈ CopyError.transientMarkers, marker.toList.any (· != 'x') := by decide
  obtain ⟨c, hc, hx⟩ := List.any_eq_true.1 (hother marker hmarker)
  rw [hlower] at hoccurs
  exact bne_iff_ne.1 hx (List.eq_of_mem_replicate (hoccurs.subset hc))

theorem start_eq (complaint : List Char) :
    (tools complaint).start (job.call "skopeo" (tools complaint).authPlace) files () =
      (.ok (run complaint), files, ()) :=
  rfl

end Complaining

open Complaining in
/-- A failure with a short complaint that holds a marker may pass. -/
theorem copy_transient_of_short :
    (tools short).authFault? job () = none ∧
      (tools short).start (job.call "skopeo" (tools short).authPlace) files () =
        (.ok (run short), files, ()) ∧
      (run short).ended.isSuccess = false ∧
      ∃ reply e, (tools short).copy "skopeo" job files () = (reply, files, ()) ∧
        reply.result = .error e ∧ e.isTransient = true := by
  refine ⟨rfl, start_eq short, rfl, ?_⟩
  obtain ⟨reply, excerpt, hcopy, hresult, -, -, hshort⟩ :=
    copy_transient_iff (tools short) "skopeo" job files () rfl (start_eq short) rfl
  have hmarker : CopyError.HasMarker (Utf8.decodeLossy (run short).stderr) :=
    CopyError.hasTransientMarker_iff.1 (by decide +kernel)
  exact ⟨reply, _, hcopy, hresult, hshort (by decide +kernel) hmarker⟩

open Complaining in
/-- A failure with a marker in its complaint is not one that may pass if the marker stands too far
before the end. -/
theorem copy_not_transient_of_long :
    (∃ reply e, (tools long).copy "skopeo" job files () = (reply, files, ()) ∧
      reply.result = .error e ∧ e.isTransient = false) ∧
    CopyError.HasMarker (Utf8.decodeLossy (run long).stderr) := by
  obtain ⟨reply, hcopy, hresult⟩ :=
    copy_of_start (tools long) "skopeo" job files () rfl (start_eq long) rfl
  have hdecoded : Utf8.decodeLossy (run long).stderr = long := by decide +kernel
  have htail : Excerpt.tail maxExcerpt long = "...".toList ++ List.replicate 2000 'x' := by
    decide +kernel
  rw [hdecoded] at hresult ⊢
  refine ⟨⟨reply, _, hcopy, hresult, ?_⟩, hasMarker_long⟩
  rw [CopyError.isTransient, String.toList_ofList, htail, Bool.eq_false_iff, ne_eq,
    CopyError.hasTransientMarker_iff,
    CopyError.hasMarker_append_right (List.all_eq_true.1 (by decide))]
  exact not_hasMarker_replicate 2000

end Tools

end ImageSync
