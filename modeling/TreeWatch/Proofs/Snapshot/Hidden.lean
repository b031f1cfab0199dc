import TreeWatch.Proofs.Snapshot.Still

/-!
# What has no influence on a snapshot

Two file systems that say the same of a root, can list the same directories, and in which the
same is found in each directory that is come upon, give the same snapshot
(`FileSystem.capture_eq_ok_iff`): the order of the listings does not count, nor does anything
that is not accepted, cannot be looked at, or lies below a directory that is not accepted.
-/

namespace TreeWatch

namespace Camera

variable {c c' : Camera Id} {dir sub root : Path}

/-- A directory is come upon: the root, if it is a directory, or one that is found further
down. -/
def Reaches (c : Camera Id) (root dir : Path) : Prop :=
  (∃ a, (c.files.metadata root).run = .ok a ∧ a.isDirectory = true) ∧
    Relation.ReflTransGen c.Enters root dir

/-- From a root on, the same can be listed and the same is found. -/
structure SeesSame (c c' : Camera Id) (root : Path) : Prop where
  metadata_eq : (c.files.metadata root).run = (c'.files.metadata root).run
  listable_iff : ∀ dir, c.Reaches root dir → ((∃ l, (c.files.list dir).run = .ok l) ↔
    ∃ l, (c'.files.list dir).run = .ok l)
  finds_iff : ∀ dir, c.Reaches root dir → ∀ p a, c.Finds dir p a ↔ c'.Finds dir p a

theorem SeesSame.reaches (h : c.SeesSame c' root) (hdir : c'.Reaches root dir) :
    c.Reaches root dir := by
  obtain ⟨⟨a, ha, hroot⟩, hpath⟩ := hdir
  have hroot' : c.Reaches root root := ⟨⟨a, h.metadata_eq.trans ha, hroot⟩, .refl⟩
  induction hpath with
  | refl => exact hroot'
  | tail _ henters ih =>
      obtain ⟨b, hb, hbdir⟩ := henters
      exact ⟨ih.1, ih.2.tail ⟨b, (h.finds_iff _ ih _ b).2 hb, hbdir⟩⟩

theorem SeesSame.symm (h : c.SeesSame c' root) : c'.SeesSame c root where
  metadata_eq := h.metadata_eq.symm
  listable_iff dir hdir := (h.listable_iff dir (h.reaches hdir)).symm
  finds_iff dir hdir p a := (h.finds_iff dir (h.reaches hdir) p a).symm

/-- Two limits on how deep directories can be nested are the same, or neither is exceeded. -/
def LimitsAlike (c c' : Camera Id) (depth depth' : ℕ) (dir : Path) : Prop :=
  depth = depth' ∨ c.DepthAtMost depth dir ∧ c'.DepthAtMost depth' dir

theorem LimitsAlike.symm {depth depth' : ℕ} (h : c.LimitsAlike c' depth depth' dir) :
    c'.LimitsAlike c depth' depth dir :=
  h.imp Eq.symm And.symm

theorem LimitsAlike.of_enters {depth depth' : ℕ} (h : c.LimitsAlike c' depth depth' dir)
    (hsub : c.Enters dir sub) (hsub' : c'.Enters dir sub) : depth = 0 ∧ depth' = 0 ∨
      ∃ d d', depth = d + 1 ∧ depth' = d' + 1 ∧ c.LimitsAlike c' d d' sub := by
  rcases h with rfl | ⟨hdepth, hdepth'⟩
  · cases depth with
    | zero => exact .inl ⟨rfl, rfl⟩
    | succ d => exact .inr ⟨d, d, rfl, rfl, .inl rfl⟩
  · obtain ⟨d, rfl, hd⟩ := hdepth.of_enters hsub
    obtain ⟨d', rfl, hd'⟩ := hdepth'.of_enters hsub'
    exact .inr ⟨d, d', rfl, rfl, .inr ⟨hd, hd'⟩⟩

/-- What is kept of a directory is a matter of what is found in it and further down. -/
theorem kept_eq {o : EntryOrder} [Std.TransCmp o.order] (horder : c.order = o)
    (horder' : c'.order = o)
    (hfinds : ∀ d, Relation.ReflTransGen c.Enters dir d → ∀ p a, c.Finds d p a ↔ c'.Finds d p a)
    (hnames : ∀ d, Relation.ReflTransGen c.Enters dir d → c.ListsApart d ∧ c'.ListsApart d)
    {depth depth' : ℕ} (hlimits : c.LimitsAlike c' depth depth' dir) :
    c.kept depth dir = c'.kept depth' dir := by
  induction depth using Nat.strong_induction_on generalizing depth' dir with
  | _ depth ih =>
      have hbelow : ∀ p a, c.Finds dir p a → Entry.ofAttributes p a (c.below depth p).run
          = .ofAttributes p a (c'.below depth' p).run := by
        intro p a hp
        cases hdir : a.isDirectory with
        | false => simp only [Entry.ofAttributes_of_not_directory hdir]
        | true =>
            have henters : c.Enters dir p := ⟨a, hp, hdir⟩
            have henters' : c'.Enters dir p := ⟨a, (hfinds dir .refl p a).1 hp, hdir⟩
            rcases hlimits.of_enters henters henters' with ⟨rfl, rfl⟩ | ⟨d, d', rfl, rfl, hd⟩
            · simp [below]
            · rw [run_below_succ, run_below_succ, ih d (Nat.lt_succ_self d)
                (fun q hq => hfinds q (.head henters hq))
                (fun q hq => hnames q (.head henters hq)) hd]
      have hperm : (c.findings depth dir).Perm (c'.findings depth' dir) := by
        have hnodup : ((c.findings depth dir).map Entry.name).Nodup :=
          (hnames dir .refl).1.nodup_findings
        have hnodup' : ((c'.findings depth' dir).map Entry.name).Nodup :=
          (hnames dir .refl).2.nodup_findings
        refine (List.perm_ext_iff_of_nodup hnodup.of_map hnodup'.of_map).2 fun x => ?_
        simp only [mem_findings_iff]
        constructor
        · rintro ⟨p, a, hp, rfl⟩
          exact ⟨p, a, (hfinds dir .refl p a).1 hp, hbelow p a hp⟩
        · rintro ⟨p, a, hp, rfl⟩
          have hp := (hfinds dir .refl p a).2 hp
          exact ⟨p, a, hp, (hbelow p a hp).symm⟩
      rw [kept, kept, horder, horder']
      exact EntryOrder.arrange_eq_of_perm hperm (hnames dir .refl).1.nodup_findings

/-- Two cameras that see the same from a root on take the same snapshots. -/
theorem SeesSame.capture_eq_ok {o : EntryOrder} [Std.TransCmp o.order]
    (h : c.SeesSame c' root) (horder : c.order = o) (horder' : c'.order = o)
    (hnames : ∀ d, c.Reaches root d → c.ListsApart d ∧ c'.ListsApart d)
    (hlimits : c.LimitsAlike c' c.files.depthLimit c'.files.depthLimit root) {e : Entry}
    (he : (c.capture root).run = .ok e) : (c'.capture root).run = .ok e := by
  rw [run_capture_eq_ok_iff, ← h.metadata_eq]
  rcases run_capture_eq_ok_iff.1 he with hmissing | ⟨a, ha, hlist, rfl⟩
  · exact .inl hmissing
  · refine .inr ⟨a, ha, fun hdir => ?_, ?_⟩
    · exact (h.listable_iff root ⟨⟨a, ha, hdir⟩, .refl⟩).1 (hlist hdir)
    · cases hdir : a.isDirectory with
      | false => simp only [Entry.ofAttributes_of_not_directory hdir]
      | true =>
          have hreaches : ∀ d, Relation.ReflTransGen c.Enters root d → c.Reaches root d :=
            fun d hd => ⟨⟨a, ha, hdir⟩, hd⟩
          rw [kept_eq horder horder' (fun d hd => h.finds_iff d (hreaches d hd))
            (fun d hd => hnames d (hreaches d hd)) hlimits]

end Camera

namespace FileSystem

def camera (files : FileSystem Id) (accepts : Path → Attributes → Bool) (o : EntryOrder) :
    Camera Id :=
  ⟨files, fun _ => pure (), accepts, o⟩

/-- Two files that differ by case, a repository, a file that cannot be looked at, and a directory
that cannot be listed. -/
def cluttered : Store :=
  .ofChanges [.addFile ⟨"/r/readme"⟩ 1 .epoch, .addFile ⟨"/r/README"⟩ 1 .epoch,
    .addFile ⟨"/r/docs/x"⟩ 2 .epoch, .addFile ⟨"/r/.git/config"⟩ 3 .epoch,
    .addFile ⟨"/r/dim"⟩ 4 .epoch, .addFile ⟨"/r/shut/y"⟩ 5 .epoch, .failMetadata ⟨"/r/dim"⟩,
    .failListing ⟨"/r/shut"⟩]

def noRepository (p : Path) (_ : Attributes) : Bool := p.baseName != ".git"

end FileSystem

end TreeWatch
