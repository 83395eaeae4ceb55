import ImageSync.Proofs.Files.Search

/-!
# What a search finds, in order

A search of a directory finds the outermost images at and below it, in the order of their names. It
makes no difference how the path to the directory is spelled, or through how many links it leads, as
long as no manifest gets out of its reach, unless the path itself is a link to an image: that image
is passed over.

## Main definitions

* `FileTree.ByteNamed`: trees in which places that differ differ in their bytes.
* `FileTree.FoundInOrder t p d found`: what a search by the path `p` to `d` finds.
* `FileTree.OutOfReach t p`: the path is refused for its length or its links.

## Main statements

* `FileTree.findImages_in_order`: what is found from a directory.
* `FileTree.findImages_eq_iff`: what is found from a path to it.
-/

namespace ImageSync

open Text

namespace FileTree

variable {t : FileTree} {a b d : Place} {n : Name} {ns : List Name} {p q target : Path}
  {images : List Name → Bool}

/-- Trees in which places that differ differ in the bytes of their names. -/
def ByteNamed (t : FileTree) : Prop :=
  ∀ x ∈ t.entries, ∀ y ∈ t.entries, x.1.map Path.bytes = y.1.map Path.bytes → x.1 = y.1

instance : Decidable t.ByteNamed :=
  inferInstanceAs (Decidable (∀ x ∈ t.entries, ∀ y ∈ t.entries, _ → _))

/-! ## What is found -/

/-- An outermost image is a directory with a manifest that directories lead to, none of which has
one itself. -/
theorem outermost_iff (ha : t.get? a = some .folder) :
    t.Outermost images a ns ↔ (∀ q, q <+: ns → t.get? (a ++ q) = some .folder) ∧
      images ns = true ∧ ∀ q, q <+: ns → q ≠ ns → images q = false := by
  constructor
  · intro h
    exact ⟨fun q hq => h.folder_of_prefix ha hq, h.image, fun q hq hne => h.image_eq_false hne hq⟩
  · rintro ⟨hfolders, hholds, hno⟩
    exact outermost_of (fun q _ hq => hfolders q hq) (fun q hne hq => hno q hq hne) hholds

/-- No outermost image lies inside another one. -/
theorem Outermost.eq_of_prefix {ms : List Name} (h : t.Outermost images a ns)
    (h' : t.Outermost images a ms) (hpre : ns <+: ms) : ns = ms := by
  by_contra hne
  have hno := h'.image_eq_false hne hpre
  rw [h.image] at hno
  cases hno

/-! ## The order -/

theorem nameLe_iff {m : Name} : nameLe n m = true ↔ Path.bytes n ≤ Path.bytes m :=
  decide_eq_true_iff

theorem pairwise_children (t : FileTree) (a : Place) :
    (t.children a).Pairwise fun x y => Path.bytes x.1 ≤ Path.bytes y.1 := by
  have htrans : ∀ x y z : Name × Entry,
      nameLe x.1 y.1 = true → nameLe y.1 z.1 = true → nameLe x.1 z.1 = true :=
    fun x y z hxy hyz => nameLe_iff.2 (List.le_trans (nameLe_iff.1 hxy) (nameLe_iff.1 hyz))
  have htotal : ∀ x y : Name × Entry, (nameLe x.1 y.1 || nameLe y.1 x.1) = true := by
    intro x y
    rw [Bool.or_eq_true, nameLe_iff, nameLe_iff]
    exact List.le_total (Path.bytes x.1) (Path.bytes y.1)
  exact (List.pairwise_mergeSort htrans htotal _).imp nameLe_iff.1

/-- The directories in a directory come in the byte order of their names. -/
theorem Closed.pairwise_subfolders (h : t.Closed) (hbytes : t.ByteNamed) (a : Place) :
    (subfolders (t.children a)).Pairwise fun n m => Path.bytes n < Path.bytes m := by
  have hle : (subfolders (t.children a)).Pairwise fun n m => Path.bytes n ≤ Path.bytes m := by
    refine (pairwise_children t a).filterMap _ ?_
    rintro ⟨n, e⟩ ⟨m, e'⟩ hnm n' hn m' hm
    dsimp only at hn hm
    split at hn
    · split at hm
      · cases hn
        cases hm
        exact hnm
      · cases hm
    · cases hn
  refine (hle.and (h.nodup_subfolders a)).imp_of_mem ?_
  rintro n m hn hm ⟨hnm, hne⟩
  have hne' : Path.bytes n ≠ Path.bytes m := by
    intro heq
    have hmem := mem_entries_of_get? (by simp) (h.mem_subfolders_iff.1 hn)
    have hmem' := mem_entries_of_get? (by simp) (h.mem_subfolders_iff.1 hm)
    have hplace : a ++ [n] = a ++ [m] := hbytes _ hmem _ hmem' (by simp [heq])
    exact hne (by simpa using hplace)
  exact Std.lt_of_le_of_ne hnm hne'

/-- Names compared one after the other, each by its bytes. -/
def ComesBefore (x y : List Name) : Prop := x.map Path.bytes < y.map Path.bytes

theorem pairwise_within (h : t.Closed) (hbytes : t.ByteNamed)
    {below : Name → List (List Name)} (hbelow : ∀ n, (below n).Pairwise ComesBefore) (a : Place) :
    (t.within below a).Pairwise ComesBefore := by
  unfold within
  rw [List.pairwise_flatMap]
  constructor
  · intro n _
    rw [List.pairwise_map]
    exact (hbelow n).imp fun hxy => List.cons_lt_cons_iff.2 (.inr ⟨rfl, hxy⟩)
  · refine (h.pairwise_subfolders hbytes a).imp fun hnm x hx y hy => ?_
    obtain ⟨x', -, rfl⟩ := List.mem_map.1 hx
    obtain ⟨y', -, rfl⟩ := List.mem_map.1 hy
    exact List.cons_lt_cons_iff.2 (.inl hnm)

/-- The outermost images at and below a place come in order. -/
theorem pairwise_outermostBelow (h : t.Closed) (hbytes : t.ByteNamed)
    (images : List Name → Bool) (depth : Nat) (a : Place) :
    (t.outermostBelow images depth a).Pairwise ComesBefore := by
  induction depth generalizing images a with
  | zero =>
      unfold outermostBelow
      split
      · exact List.pairwise_singleton _ _
      · exact .nil
  | succ depth ih =>
      unfold outermostBelow
      split
      · exact List.pairwise_singleton _ _
      · exact pairwise_within h hbytes (fun n => ih _ _) a

/-- What a search finds by the path `p` to the directory `d`: the images that directories lead to
and that lie in no other image, in the byte order of the names on the way. -/
structure FoundInOrder (t : FileTree) (p : Path) (d : Place) (found : List (List Name)) : Prop where
  mem_iff : ∀ ns, ns ∈ found ↔ (∀ q, q <+: ns → t.get? (d ++ q) = some .folder) ∧
    t.holdsImage (p.below ns) = true ∧
    ∀ q, q <+: ns → q ≠ ns → t.holdsImage (p.below q) = false
  nodup : found.Nodup
  apart : ∀ ns ∈ found, ∀ ms ∈ found, ns <+: ms → ns = ms
  ordered : found.Pairwise ComesBefore

theorem foundInOrder_outermost (h : t.Closed) (hbytes : t.ByteNamed)
    (hd : t.get? d = some .folder) (p : Path) : t.FoundInOrder p d (t.outermost p d) := by
  constructor
  case mem_iff => exact fun ns => (mem_outermost_iff h).trans (outermost_iff hd)
  case nodup => exact nodup_outermost h p d
  case apart =>
    intro ns hns ms hms hpre
    have houter := (mem_outermost_iff h).1 hns
    exact houter.eq_of_prefix ((mem_outermost_iff h).1 hms) hpre
  case ordered => exact pairwise_outermostBelow h hbytes _ _ d

/-! ## The path to the directory -/

/-- Names that lead from a path to itself are none. -/
theorem eq_nil_of_below_eq (hns : ∀ n ∈ ns, Path.IsProper n) (h : p.below ns = p) : ns = [] := by
  have hsegments : Path.segments (p.below ns) = Path.segments p ++ ns :=
    Path.segments_foldl_append p fun n hn => ⟨(hns n hn).ne_nil, (hns n hn).slash_notMem⟩
  rw [h] at hsegments
  exact List.self_eq_append_right.1 hsegments

/-- A path is not among those that lead from it into the directories within. -/
theorem notMem_below_outermostWithin (hwf : t.Closed) (p : Path) (d : Place) :
    p ∉ (t.outermostWithin p d).map p.below := by
  intro hmem
  obtain ⟨ns, hns, hbelow⟩ := List.mem_map.1 hmem
  obtain ⟨n, rest, rfl, hget, houter⟩ := (mem_outermostWithin_iff hwf).1 hns
  have hplace := hwf.proper_of_get? (houter.folder_of_prefix hget (List.prefix_refl rest))
  have hproper : ∀ m ∈ n :: rest, Path.IsProper m := by
    intro m hm
    refine hplace m ?_
    simpa using Or.inr (List.mem_cons.1 hm)
  cases eq_nil_of_below_eq hproper hbelow

/-! ## What is out of reach -/

/-- The path is refused because it or a name in it is too long, or because it leads through too many
links. -/
def OutOfReach (t : FileTree) (p : Path) : Prop :=
  t.stat p = .error .nameTooLong ∨ t.stat p = .error .linkLoop

theorem holdsImage_iff : t.holdsImage p = true ↔
    ∃ b content, t.find (Path.append p manifestName) true = .ok (b, .file content) := by
  unfold holdsImage isFile stat
  cases t.find (Path.append p manifestName) true with
  | error e => simp [Except.map]
  | ok found =>
      obtain ⟨b, e⟩ := found
      cases e <;> simp [Except.map]

theorem stat_eq_error {e : SystemError} (h : t.locate p true = .error e) :
    t.stat p = .error e := by
  rw [stat, find, h]
  rfl

/-- Two paths to a directory see the same manifest there, or it is out of reach of one of them. -/
theorem holdsImage_or_outOfReach (hkeptp : t.EndsKept p) (hkeptq : t.EndsKept q)
    (hp : t.find p true = .ok (d, .folder)) (hq : t.find q true = .ok (d, .folder))
    (hholds : t.holdsImage q = true) :
    t.holdsImage p = true ∨ t.OutOfReach (Path.append p manifestName) := by
  rcases locate_manifest hkeptp hp with ⟨-, hlong⟩ | ⟨left, hleft⟩
  · exact .inr (.inl (stat_eq_error hlong))
  · obtain ⟨b, content, hfound⟩ := holdsImage_iff.1 hholds
    obtain ⟨left', hleft'⟩ : ∃ left', t.walk true false left' d [manifestName] =
        .ok (.found b (.file content)) := by
      rcases locate_manifest hkeptq hq with ⟨-, hlong⟩ | ⟨left', hleft'⟩
      · rw [find, hlong] at hfound
        cases hfound
      · refine ⟨left', ?_⟩
        rw [← hleft']
        unfold find at hfound
        split at hfound <;> simp_all
    by_cases hloop : t.walk true false left d [manifestName] = .error .linkLoop
    · exact .inr (.inr (stat_eq_error (hleft.trans hloop)))
    · -- with the links of both ways, the manifest is found as from either
      have hfrom : t.walk true false (max left left') d [manifestName] =
          t.walk true false left d [manifestName] := walk_of_le hloop (Nat.le_max_left _ _)
      have hfrom' : t.walk true false (max left left') d [manifestName] =
          t.walk true false left' d [manifestName] :=
        walk_of_le (by simp [hleft']) (Nat.le_max_right _ _)
      rw [hfrom, hleft', ← hleft] at hfrom'
      refine .inl (holdsImage_iff.2 ⟨b, content, ?_⟩)
      rw [find, hfrom']

/-- Two paths to a directory agree on whether it is an image, or its manifest is out of reach of one of
them. -/
theorem holdsImage_eq_or_outOfReach (hkeptp : t.EndsKept p) (hkeptq : t.EndsKept q)
    (hp : t.find p true = .ok (d, .folder)) (hq : t.find q true = .ok (d, .folder)) :
    t.holdsImage p = t.holdsImage q ∨ t.OutOfReach (Path.append p manifestName) ∨
      t.OutOfReach (Path.append q manifestName) := by
  cases hholdsp : t.holdsImage p with
  | true =>
      rcases holdsImage_or_outOfReach hkeptq hkeptp hq hp hholdsp with hholdsq | hout
      · exact .inl hholdsq.symm
      · exact .inr (.inr hout)
  | false =>
      cases hholdsq : t.holdsImage q with
      | false => exact .inl rfl
      | true =>
          rcases holdsImage_or_outOfReach hkeptp hkeptq hp hq hholdsq with hholds | hout
          · simp [hholds] at hholdsp
          · exact .inr (.inl hout)

/-! ## Searches by two paths -/

/-- By paths that see the same images, the same is found. -/
theorem outermost_congr (hwf : t.Closed) (hd : t.get? d = some .folder)
    (hsame : ∀ ns, t.get? (d ++ ns) = some .folder →
      t.holdsImage (p.below ns) = t.holdsImage (q.below ns)) :
    t.outermost p d = t.outermost q d :=
  outermostBelow_congr hwf hd hsame

/-! ## What is found from a path -/

namespace LinkedImage

def team : Name := Path.ofString "team"

def app : Name := Path.ofString "app"

def web : Name := Path.ofString "web"

def all : Name := Path.ofString "all"

def current : Name := Path.ofString "current"

/-- Two images in one directory, and links to the directory and to one of the images. -/
def tree : FileTree where
  entries := [([team], .folder), ([team, web], .folder), ([team, web, manifestName], .file []),
    ([team, app], .folder), ([team, app, manifestName], .file []),
    ([all], .link (Path.ofString "team")), ([current], .link (Path.ofString "team/app"))]
  home := []

theorem wellFormed_tree : tree.WellFormed := by
  refine ⟨⟨?nodup, ?proper, ?inFolder, ?home⟩, rfl⟩
  case nodup => decide
  case proper =>
    have hteam : Path.IsProper team := by constructor <;> decide
    have hweb : Path.IsProper web := by constructor <;> decide
    have happ : Path.IsProper app := by constructor <;> decide
    have hall : Path.IsProper all := by constructor <;> decide
    have hcurrent : Path.IsProper current := by constructor <;> decide
    have hmanifest : Path.IsProper manifestName := by constructor <;> decide
    simp [tree, hteam, hweb, happ, hall, hcurrent, hmanifest]
  case inFolder => decide
  case home => rfl

end LinkedImage

open LinkedImage

/-- Where everything can be read, a search from a directory, which was not removed, finds all images
that directories lead to and that lie in no other image, each once and in the byte order of the names
on the way. -/
theorem findImages_in_order (hclosed : t.Closed) (hkept : t.EndsKept p) (hbytes : t.ByteNamed)
    (hp : t.find p false = .ok (d, .folder)) (hread : t.Readable p d) :
    ∃ found, t.findImages p = .ok (found.map p.below) ∧ t.FoundInOrder p d found := by
  exact ⟨_, findImages_of_folder hclosed hkept hread hp, foundInOrder_outermost hclosed hbytes
    (hclosed.folder_of_find hkept hp) p⟩

theorem readable_team : tree.Readable team [team] :=
  readable_of_entries rfl (by decide)

/-- A directory with two images, whose entries do not stand in the order of their names. -/
theorem findImages_in_order_two :
    tree.Closed ∧ tree.EndsKept team ∧ tree.ByteNamed ∧
      tree.find team false = .ok ([team], .folder) ∧ tree.Readable team [team] ∧
      ∃ found : List (List Name), tree.findImages team = .ok (found.map (Path.below team)) ∧
        tree.FoundInOrder team [team] found := by
  have hbytes : tree.ByteNamed := by decide
  have hteam : tree.find team false = .ok ([team], .folder) := rfl
  have hkept := wellFormed_tree.endsKept team
  exact ⟨wellFormed_tree.toClosed, hkept, hbytes, hteam, readable_team,
    findImages_in_order wellFormed_tree.toClosed hkept hbytes hteam readable_team⟩

/-- By two paths to a directory a search sees the same manifests, except those that are out of reach
of one of the paths. Where it sees the same, it finds the same, unless the directory is an image and
the path is a link to it. -/
theorem findImages_eq_iff (hclosed : t.Closed) (hkeptp : t.EndsKept p) (hkeptq : t.EndsKept q)
    (hp : t.find p true = .ok (d, .folder)) (hq : t.find q false = .ok (d, .folder))
    (hreadp : t.Readable p d) (hreadq : t.Readable q d) :
    (∀ ns, t.get? (d ++ ns) = some .folder →
      t.holdsImage (p.below ns) = t.holdsImage (q.below ns) ∨
        t.OutOfReach (Path.append (p.below ns) manifestName) ∨
        t.OutOfReach (Path.append (q.below ns) manifestName)) ∧
    ((∀ ns, t.get? (d ++ ns) = some .folder →
        t.holdsImage (p.below ns) = t.holdsImage (q.below ns)) →
      ∃ found, t.findImages q = .ok (found.map q.below) ∧
        (t.holdsImage q = true → found = [[]]) ∧
        (t.findImages p = .ok (found.map p.below) ↔
          t.find p false = .ok (d, .folder) ∨ t.holdsImage q = false)) := by
  have hd : t.get? d = some .folder := hclosed.folder_of_find hkeptp hp
  have hq' : t.find q true = .ok (d, .folder) := hreadq.find_true hclosed hkeptq hq
  constructor
  · intro ns hns
    have hbelowp := hkeptp.below hclosed (leads_of_find hp).1 hns
    have hbelowq := hkeptq.below hclosed (leads_of_find hq').1 hns
    exact holdsImage_eq_or_outOfReach hbelowp hbelowq (hreadp.find_below hclosed hkeptp hp hns)
      (hreadq.find_below hclosed hkeptq hq' hns)
  · intro hsame
    have hroot : t.holdsImage p = t.holdsImage q := hsame [] (by simpa using hd)
    refine ⟨t.outermost q d, findImages_of_folder hclosed hkeptq hreadq hq, fun hholds => ?_, ?_⟩
    · rw [outermost_eq, if_pos hholds]
    · rw [← outermost_congr hclosed hd hsame]
      rcases find_false_of_find_true hp with hfolder | ⟨a, target, hlink⟩
      · exact iff_of_true (findImages_of_folder hclosed hkeptp hreadp hfolder) (.inl hfolder)
      · rw [findImages_of_link hclosed hkeptp hreadp hp hlink, outermost_eq, hroot]
        cases hholds : t.holdsImage q with
        | false => exact iff_of_true rfl (.inr rfl)
        | true =>
            refine iff_of_false (fun hfound => ?_) (by simp [hlink])
            refine notMem_below_outermostWithin hclosed p d ?_
            rw [Except.ok.inj hfound, if_pos rfl]
            exact List.mem_singleton.2 rfl

/-- A link to a directory that is no image. -/
theorem findImages_eq_iff_all :
    tree.Closed ∧ tree.EndsKept all ∧ tree.EndsKept team ∧
      tree.find all true = .ok ([team], .folder) ∧
      tree.find team false = .ok ([team], .folder) ∧ tree.Readable all [team] ∧
      tree.Readable team [team] ∧
      ∃ found : List (List Name), tree.findImages team = .ok (found.map (Path.below team)) ∧
        tree.findImages all = .ok (found.map (Path.below all)) := by
  have hall : tree.find all true = .ok ([team], .folder) := rfl
  have hteam : tree.find team false = .ok ([team], .folder) := rfl
  have hread : tree.Readable all [team] := readable_of_entries rfl (by decide)
  have hno : tree.holdsImage team = false := rfl
  have hkept := wellFormed_tree.endsKept all
  have hkept' := wellFormed_tree.endsKept team
  have hsame : ∀ ns, tree.get? ([team] ++ ns) = some .folder →
      tree.holdsImage (Path.below all ns) = tree.holdsImage (Path.below team ns) := by
    intro ns hns
    exact forall_below_of_entries (P := fun ns => tree.holdsImage (Path.below all ns) =
      tree.holdsImage (Path.below team ns)) rfl (by decide) hns
  obtain ⟨found, hfound, -, hiff⟩ :=
    (findImages_eq_iff wellFormed_tree.toClosed hkept hkept' hall hteam hread readable_team).2 hsame
  exact ⟨wellFormed_tree.toClosed, hkept, hkept', hall, hteam, hread, readable_team, found, hfound,
    hiff.2 (.inr hno)⟩

/-- A link to an image: nothing is found, where from the image itself the image is found. -/
theorem findImages_passes_over_link :
    tree.WellFormed ∧
      tree.find (Path.ofString "team/app") false = .ok ([team, app], .folder) ∧
      tree.find current true = .ok ([team, app], .folder) ∧
      tree.findImages (Path.ofString "team/app") = .ok [Path.ofString "team/app"] ∧
      tree.findImages current = .ok [] := by
  have hfolder : tree.find (Path.ofString "team/app") false = .ok ([team, app], .folder) := rfl
  have hcurrent : tree.find current true = .ok ([team, app], .folder) := rfl
  have hlink : tree.find current false = .ok ([current], .link (Path.ofString "team/app")) := rfl
  have hread : tree.Readable (Path.ofString "team/app") [team, app] :=
    readable_of_entries rfl (by decide)
  have hread' : tree.Readable current [team, app] := readable_of_entries rfl (by decide)
  have himage : tree.findImages (Path.ofString "team/app") = .ok [Path.ofString "team/app"] := by
    rw [findImages_of_folder wellFormed_tree.toClosed (wellFormed_tree.endsKept _) hread hfolder]
    exact congrArg Except.ok (by decide +kernel)
  have hnone : tree.findImages current = .ok [] := by
    rw [findImages_of_link wellFormed_tree.toClosed (wellFormed_tree.endsKept _) hread' hcurrent
      hlink]
    exact congrArg Except.ok (by decide +kernel)
  exact ⟨wellFormed_tree, hfolder, hcurrent, himage, hnone⟩

end FileTree

end ImageSync
