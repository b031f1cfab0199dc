import TreeWatch.Proofs.Snapshot.Still

/-!
# Roots that are links

A stored tree is asked for a root twice: what is there, seen through links, and then what it lists,
where links are not followed. So a root that leads to a directory has a snapshot if it is that
directory, and none if it is a link to it (`captures_unless_link`), although the directory itself
can always be listed and has a snapshot.
-/

namespace TreeWatch

namespace StoredNode

def isLink (n : StoredNode) : Bool :=
  match n.kind with
  | .link _ => true
  | _ => false

end StoredNode

namespace Store

/-- From a path, so many links lead to another one, where something is stored that is no link. -/
inductive Resolves (s : Store) : ℕ → Path → Path → Prop
  | here {p : Path} {n : StoredNode} (hn : s.find? p.place = some n) (hkind : n.isLink = false) :
      Resolves s 0 p p
  | link {p q target : Path} {links : ℕ} {modified : Timestamp}
      (hn : s.find? p.place = some ⟨.link target, modified⟩)
      (hrest : Resolves s links (linkTarget p target) q) : Resolves s (links + 1) p q

variable {s : Store} {p q root : Path} {a : Attributes} {links : ℕ}

theorem Resolves.exists_find? (h : s.Resolves links p q) :
    ∃ n, s.find? q.place = some n ∧ n.isLink = false := by
  induction h with
  | here hn hkind => exact ⟨_, hn, hkind⟩
  | link _ _ ih => exact ih

/-- What is said of a path is said of what it leads to through less links than nodes may be looked
at. -/
theorem follow_eq_ok_iff {asked : Path} {limit : ℕ} : s.follow asked limit p = .ok a ↔
    ∃ links < limit, ∃ q n, s.Resolves links p q ∧ s.find? q.place = some n ∧
      a = n.attributes := by
  constructor
  · intro h
    induction limit generalizing p with
    | zero => cases h
    | succ limit ih =>
        rw [follow] at h
        cases hn : s.find? p.place with
        | none => simp [hn] at h
        | some n =>
            obtain ⟨kind, modified⟩ := n
            rw [hn] at h
            cases kind with
            | link target =>
                obtain ⟨links, hlinks, q, m, hq, hm, ha⟩ := ih h
                exact ⟨links + 1, by omega, q, m, .link hn hq, hm, ha⟩
            | file | directory =>
                exact ⟨0, by omega, p, _, .here hn rfl, hn, (Except.ok.inj h).symm⟩
  · rintro ⟨links, hlinks, q, n, hq, hn, rfl⟩
    induction hq generalizing limit with
    | @here p m hm hkind =>
        obtain ⟨limit, rfl⟩ := Nat.exists_eq_add_one_of_ne_zero (by omega : limit ≠ 0)
        obtain rfl : m = n := Option.some.inj (hm.symm.trans hn)
        obtain ⟨kind, modified⟩ := m
        cases kind <;> simp_all [follow, StoredNode.isLink]
    | @link p q target links modified hm _ ih =>
        obtain ⟨limit, rfl⟩ := Nat.exists_eq_add_one_of_ne_zero (by omega : limit ≠ 0)
        rw [follow, hm]
        exact ih (by omega) hn

theorem metadata_eq_ok_iff : s.metadata p = .ok a ↔ p.place ∉ s.unreadable ∧
    ∃ links < linkLimit, ∃ q n, s.Resolves links p q ∧ s.find? q.place = some n ∧
      a = n.attributes := by
  rw [metadata]
  split
  · rename_i hfails
    simp [hfails]
  · rename_i hfails
    rw [follow_eq_ok_iff, and_iff_right hfails]

variable (accepts : Path → Attributes → Bool) (o : EntryOrder)

theorem capture_eq_ok_of_list {listing : List Path} (hroot : s.metadata root = .ok a)
    (hdir : a.isDirectory = true) (hlist : s.list root = .ok listing) :
    ∃ children, s.capture accepts o root = .ok (.directory root a.modified children) := by
  have hok := (s.camera accepts o).run_capture_eq_ok_iff.2
    (.inr ⟨a, hroot, fun _ => ⟨_, hlist⟩, rfl⟩)
  rw [Entry.ofAttributes, if_pos hdir] at hok
  exact ⟨_, hok⟩

theorem capture_eq_error_of_list {problem : IoError} (hroot : s.metadata root = .ok a)
    (hdir : a.isDirectory = true) (hlist : s.list root = .error problem) :
    s.capture accepts o root = .error (.capture root problem) := by
  simp [Store.capture, Camera.capture, fileSystem, hroot, hdir, hlist]

theorem list_eq_error_of_isLink {n : StoredNode} (hfails : root.place ∉ s.unlistable)
    (hn : s.find? root.place = some n) (hlink : n.isLink = true) :
    s.list root = .error (notDirectory root) := by
  obtain ⟨kind, modified⟩ := n
  rw [list, if_neg hfails, hn]
  cases kind with
  | link target => rfl
  | file | directory => cases hlink

/-- In a stored tree of which everything can be listed and looked at, a root that leads to a
directory leads there through links, and that directory can be listed and has a snapshot. The root
has one if no link is on the way. If it is a link, it cannot be listed, and so it has none. -/
theorem captures_unless_link (hunlistable : s.unlistable = []) (hunreadable : s.unreadable = [])
    (hroot : s.metadata root = .ok a) (hdir : a.isDirectory = true) :
    ∃ links target listing children, links < linkLimit ∧ s.Resolves links root target ∧
      s.list target = .ok listing ∧
      s.capture accepts o target = .ok (.directory target a.modified children) ∧
      (links = 0 ∧ target = root ∨
        0 < links ∧ s.list root = .error (notDirectory root) ∧
          s.capture accepts o root = .error (.capture root (notDirectory root))) := by
  obtain ⟨_, links, hlinks, target, n, hresolves, hn, rfl⟩ := metadata_eq_ok_iff.1 hroot
  have htarget : s.metadata target = .ok n.attributes := by
    obtain ⟨m, hm, hkind⟩ := hresolves.exists_find?
    have hlook : target.place ∉ s.unreadable := by simp [hunreadable]
    exact metadata_eq_ok_iff.2 ⟨hlook, 0, by decide, target, n, .here hm hkind, hn, rfl⟩
  obtain ⟨listing, hlist⟩ : ∃ listing, s.list target = .ok listing := by
    obtain ⟨kind, modified⟩ := n
    cases kind with
    | file | link => cases hdir
    | directory names =>
        exact ⟨_, list_eq_ok_iff.2 ⟨by simp [hunlistable], names, modified, hn, rfl⟩⟩
  obtain ⟨children, hcapture⟩ := capture_eq_ok_of_list accepts o htarget hdir hlist
  refine ⟨links, target, listing, children, hlinks, hresolves, hlist, hcapture, ?_⟩
  cases hresolves with
  | here => exact .inl ⟨rfl, rfl⟩
  | link hlink hrest =>
      have herror := list_eq_error_of_isLink (by simp [hunlistable]) hlink rfl
      exact .inr ⟨Nat.succ_pos _, herror, capture_eq_error_of_list accepts o hroot hdir herror⟩

def linked : List StoreChange :=
  [.addDirectory ⟨"/d"⟩ .epoch, .addLink ⟨"/m"⟩ ⟨"d"⟩ .epoch, .addLink ⟨"/l"⟩ ⟨"m"⟩ .epoch]

theorem captures_unless_link_chained :
    (ofChanges linked).unlistable = [] ∧ (ofChanges linked).unreadable = [] ∧
    (ofChanges linked).metadata ⟨"/l"⟩ = .ok (.directory .epoch) ∧
    ∃ links target listing children, 0 < links ∧
      (ofChanges linked).Resolves links ⟨"/l"⟩ target ∧
      (ofChanges linked).list target = .ok listing ∧
      (ofChanges linked).capture (fun _ _ => true) (Comparator.name .sensitive).toEntryOrder target
        = .ok (.directory target .epoch children) ∧
      (ofChanges linked).capture (fun _ _ => true) (Comparator.name .sensitive).toEntryOrder ⟨"/l"⟩
        = .error (.capture ⟨"/l"⟩ (notDirectory ⟨"/l"⟩)) := by
  have hroot : (ofChanges linked).metadata ⟨"/l"⟩ = .ok (.directory .epoch) := by decide +kernel
  have hlink : (ofChanges linked).find? (Path.place ⟨"/l"⟩) = some ⟨.link ⟨"m"⟩, .epoch⟩ := by
    decide +kernel
  obtain ⟨links, target, listing, children, _, hresolves, hlist, hcapture, hlinks⟩ :=
    captures_unless_link (fun _ _ => true) (Comparator.name .sensitive).toEntryOrder
      (s := ofChanges linked) rfl rfl hroot rfl
  rcases hlinks with ⟨rfl, rfl⟩ | ⟨hpos, _, herror⟩
  · obtain ⟨n, hn, hkind⟩ := hresolves.exists_find?
    obtain rfl := Option.some.inj (hlink.symm.trans hn)
    cases hkind
  · exact ⟨rfl, rfl, hroot, links, target, listing, children, hpos, hresolves, hlist, hcapture,
      herror⟩

/-- A link to a directory has no snapshot, although it is seen as a directory. -/
theorem no_capture_of_link :
    (ofChanges linked).unlistable = [] ∧ (ofChanges linked).unreadable = [] ∧
    (ofChanges linked).metadata ⟨"/m"⟩ = .ok (.directory .epoch) ∧
    (ofChanges linked).list ⟨"/m"⟩ = .error (notDirectory ⟨"/m"⟩) ∧
    ∀ accepts o e, (ofChanges linked).capture accepts o ⟨"/m"⟩ ≠ .ok e := by
  have hroot : (ofChanges linked).metadata ⟨"/m"⟩ = .ok (.directory .epoch) := by decide +kernel
  have hlist : (ofChanges linked).list ⟨"/m"⟩ = .error (notDirectory ⟨"/m"⟩) := by decide +kernel
  refine ⟨rfl, rfl, hroot, hlist, fun accepts o e he => ?_⟩
  rw [capture_eq_error_of_list accepts o hroot rfl hlist] at he
  cases he

end Store

end TreeWatch
