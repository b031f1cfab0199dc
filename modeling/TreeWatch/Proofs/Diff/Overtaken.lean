import TreeWatch.Proofs.Diff.Events

/-!
# Entries that are overtaken

An entry of a directory that stays as it was is matched with itself, unless a merge comes to one
of its two versions too early: another entry, of the other type but the same to the order, is
then matched with it (`Overtaken`). This takes two entries of one directory that are the same to
the order, a directory `A` and a file `a`, which only an order that ignores case and sorts
directories apart from files leaves side by side.
-/

namespace TreeWatch

namespace EntryOrder

/-- A new entry, and every new entry of its type before it, is the same as an old entry that is
sorted before it, behind all new entries of the other type. -/
def Overtaken (o : EntryOrder) (old new : List Entry) (e : Entry) : Prop :=
  ∀ f ∈ new, f.isDirectory = e.isDirectory → o.order f e ≠ .gt →
    ∃ d ∈ old, o.same d f = true ∧ o.order d f = .lt ∧
      ∀ c ∈ new, c.isDirectory = d.isDirectory → o.order c d = .lt

section Keyed

variable {o : EntryOrder} {κ : Type} [LinearOrder κ] {rank : Bool → ℕ} {key : Entry → κ}

theorem KeyedBy.overtaken_iff (h : o.KeyedBy rank key) {old new : List Entry} {e : Entry} :
    o.Overtaken old new e ↔ ∀ f ∈ new, f.isDirectory = e.isDirectory →
      position rank key f ≤ position rank key e →
        ∃ d ∈ old, key d = key f ∧ position rank key d < position rank key f ∧
          ∀ c ∈ new, c.isDirectory = d.isDirectory →
            position rank key c < position rank key d := by
  simp only [Overtaken, h.same_iff, h.order_eq_lt_iff, ne_eq, h.order_eq_gt_iff, not_lt]

theorem Ascending.le_of_mem {e : Entry} {es : List Entry} (h : Ascending rank key (e :: es))
    {x : Entry} (hx : x ∈ e :: es) : position rank key e ≤ position rank key x := by
  rcases List.mem_cons.1 hx with rfl | hx
  · exact le_rfl
  · exact ((List.pairwise_cons.1 h).1 x hx).le

/-- In sorted entries, none has a type of a lesser rank than the first. -/
theorem Ascending.isDirectory_ne {e : Entry} {es : List Entry} (h : Ascending rank key (e :: es))
    {isDirectory : Bool} (hrank : rank isDirectory < rank e.isDirectory) {x : Entry}
    (hx : x ∈ e :: es) : x.isDirectory ≠ isDirectory := by
  rintro rfl
  rcases List.mem_cons.1 hx with rfl | hx
  · exact lt_irrefl _ hrank
  · exact absurd hrank (rank_le_of_position_lt ((List.pairwise_cons.1 h).1 x hx)).not_gt

theorem isDirectory_eq_of_ne {a b c : Entry} (hab : a.isDirectory ≠ b.isDirectory)
    (hbc : b.isDirectory ≠ c.isDirectory) : a.isDirectory = c.isDirectory := by
  rw [Bool.eq_not_of_ne hab, Bool.eq_not_of_ne hbc, Bool.not_not]

theorem isDirectory_ne_of_position_lt {d f : Entry} (hkey : key d = key f)
    (hlt : position rank key d < position rank key f) : d.isDirectory ≠ f.isDirectory := fun ht =>
  absurd (position_eq ht hkey) hlt.ne

theorem KeyedBy.overtaken_cons_old_iff (h : o.KeyedBy rank key) {p c : Entry}
    {old new : List Entry} {e : Entry} (hold : Ascending rank key (p :: old))
    (hnew : Ascending rank key (c :: new)) (hpc : position rank key p < position rank key c)
    (hkey : key p ≠ key c) :
    o.Overtaken (p :: old) (c :: new) e ↔ o.Overtaken old (c :: new) e := by
  rw [h.overtaken_iff, h.overtaken_iff]
  constructor
  · intro hov f hf hfe hle
    obtain ⟨d, hd, hdf, hlt, hall⟩ := hov f hf hfe hle
    rcases List.mem_cons.1 hd with rfl | hd
    · exfalso
      have hcd : c.isDirectory ≠ d.isDirectory := fun ht =>
        absurd (hall c List.mem_cons_self ht) hpc.not_gt
      have hdf' := isDirectory_ne_of_position_lt hdf hlt
      have hcf : c.isDirectory = f.isDirectory := isDirectory_eq_of_ne hcd hdf'
      obtain ⟨d', hd', hd'c, hlt', _⟩ := hov c List.mem_cons_self (hcf.trans hfe)
        ((hnew.le_of_mem hf).trans hle)
      have hd'c' := isDirectory_ne_of_position_lt hd'c hlt'
      have hd'd : d.isDirectory = d'.isDirectory := isDirectory_eq_of_ne hcd.symm hd'c'.symm
      have h₁ : key d ≤ key c := hd'c ▸ key_le_of_position_le hd'd (hold.le_of_mem hd')
      have h₂ : key c ≤ key d := hdf ▸ key_le_of_position_le hcf (hnew.le_of_mem hf)
      exact hkey (le_antisymm h₁ h₂)
    · exact ⟨d, hd, hdf, hlt, hall⟩
  · intro hov f hf hfe hle
    obtain ⟨d, hd, hrest⟩ := hov f hf hfe hle
    exact ⟨d, List.mem_cons_of_mem p hd, hrest⟩

/-- A new entry before all old ones makes no difference to a later one. -/
theorem KeyedBy.overtaken_cons_new_iff (h : o.KeyedBy rank key) {p c : Entry}
    {old new : List Entry} {e x : Entry} (hold : Ascending rank key (p :: old))
    (hnew : Ascending rank key (c :: new)) (hpc : position rank key p < position rank key c)
    (hx : x ∈ old) (hxe : position rank key x = position rank key e)
    (htype : x.isDirectory = e.isDirectory) :
    o.Overtaken (c :: new) (p :: old) e ↔ o.Overtaken (c :: new) old e := by
  rw [h.overtaken_iff, h.overtaken_iff]
  constructor
  · intro hov f hf hfe hle
    obtain ⟨d, hd, hdf, hlt, hall⟩ := hov f (List.mem_cons_of_mem p hf) hfe hle
    exact ⟨d, hd, hdf, hlt, fun c hc => hall c (List.mem_cons_of_mem p hc)⟩
  · intro hov f hf hfe hle
    rcases List.mem_cons.1 hf with rfl | hf
    · exfalso
      obtain ⟨d, hd, hdx, hlt, _⟩ := hov x hx htype hxe.le
      have hrank := rank_lt_of_position_lt hdx hlt
      rw [htype, ← hfe] at hrank
      have hdf : position rank key d < position rank key f := position_lt_iff.2 (.inl hrank)
      exact absurd (hpc.trans_le (hnew.le_of_mem hd)) hdf.not_gt
    · obtain ⟨d, hd, hdf, hlt, hall⟩ := hov f hf hfe hle
      refine ⟨d, hd, hdf, hlt, fun c' hc' ht => ?_⟩
      rcases List.mem_cons.1 hc' with rfl | hc'
      · exact hpc.trans_le (hnew.le_of_mem hd)
      · exact hall c' hc' ht

theorem KeyedBy.overtaken_cons_cons_iff (h : o.KeyedBy rank key) {p c : Entry}
    {old new : List Entry} {e x : Entry} (hold : Ascending rank key (p :: old))
    (hnew : Ascending rank key (c :: new)) (hpc : key p = key c)
    (hx : x ∈ new) (hxe : position rank key x = position rank key e)
    (htype : x.isDirectory = e.isDirectory) :
    o.Overtaken (p :: old) (c :: new) e ↔ o.Overtaken old new e := by
  rw [h.overtaken_iff, h.overtaken_iff]
  constructor
  · intro hov f hf hfe hle
    obtain ⟨d, hd, hdf, hlt, hall⟩ := hov f (List.mem_cons_of_mem c hf) hfe hle
    rcases List.mem_cons.1 hd with rfl | hd
    · exfalso
      have hcf := isDirectory_ne_of_position_lt (hpc.symm.trans hdf)
        ((List.pairwise_cons.1 hnew).1 f hf)
      have hdf' := isDirectory_ne_of_position_lt hdf hlt
      have hcd : c.isDirectory = d.isDirectory := isDirectory_eq_of_ne hcf hdf'.symm
      exact absurd (position_eq hcd hpc.symm) (hall c List.mem_cons_self hcd).ne
    · exact ⟨d, hd, hdf, hlt, fun c' hc' => hall c' (List.mem_cons_of_mem c hc')⟩
  · intro hov f hf hfe hle
    rcases List.mem_cons.1 hf with rfl | hf
    · -- the matched old entry is of the type of the one that overtakes the later entry
      obtain ⟨d, hd, hdx, hlt, _⟩ := hov x hx htype hxe.le
      have hrank : rank p.isDirectory < rank f.isDirectory := by
        rw [hfe, ← htype]
        exact (rank_le_of_position_lt ((List.pairwise_cons.1 hold).1 d hd)).trans_lt
          (rank_lt_of_position_lt hdx hlt)
      exact ⟨p, List.mem_cons_self, hpc, position_lt_iff.2 (.inl hrank),
        fun c' hc' ht => absurd ht (hnew.isDirectory_ne hrank hc')⟩
    · obtain ⟨d, hd, hdf, hlt, hall⟩ := hov f hf hfe hle
      refine ⟨d, List.mem_cons_of_mem p hd, hdf, hlt, fun c' hc' ht => ?_⟩
      rcases List.mem_cons.1 hc' with rfl | hc'
      · have hpd := (List.pairwise_cons.1 hold).1 d hd
        by_cases hpt : p.isDirectory = c'.isDirectory
        · rwa [← position_eq hpt hpc]
        · have hdf' := isDirectory_ne_of_position_lt hdf hlt
          have hpf : p.isDirectory = f.isDirectory :=
            isDirectory_eq_of_ne (ht ▸ hpt) hdf'
          have hrank := rank_lt_of_position_lt hdf hlt
          rw [← hpf] at hrank
          exact absurd hrank (rank_le_of_position_lt hpd).not_gt
      · exact hall c' hc' ht

/-- The first old entry does not overtake anything at its own position. -/
theorem KeyedBy.not_overtaken_of_le (h : o.KeyedBy rank key) {old new : List Entry} {e f : Entry}
    (hf : f ∈ new) (hfe : position rank key f = position rank key e)
    (htype : f.isDirectory = e.isDirectory)
    (hle : ∀ d ∈ old, position rank key e ≤ position rank key d) : ¬ o.Overtaken old new e := by
  rw [h.overtaken_iff]
  intro hov
  obtain ⟨d, hd, _, hlt, _⟩ := hov f hf htype hfe.le
  rw [hfe] at hlt
  exact absurd hlt (hle d hd).not_gt

/-- An old entry that is matched with a new one of the other type overtakes it. -/
theorem KeyedBy.overtaken_of_matched (h : o.KeyedBy rank key) {p c e : Entry}
    {old new : List Entry} (hnew : Ascending rank key (c :: new)) (hkey : key p = key c)
    (hlt : position rank key p < position rank key c)
    (hce : position rank key c = position rank key e) :
    o.Overtaken (p :: old) (c :: new) e := by
  rw [h.overtaken_iff]
  have hrank := rank_lt_of_position_lt hkey hlt
  intro f hf htype hle
  have hfc : position rank key f = position rank key c :=
    le_antisymm (hce ▸ hle) (hnew.le_of_mem hf)
  exact ⟨p, List.mem_cons_self, hkey.trans (key_eq_of_position_eq hfc).symm, hfc ▸ hlt,
    fun c' hc' ht => absurd ht (hnew.isDirectory_ne hrank hc')⟩

/-- Of an entry that kept its type, either the two versions are matched and neither is
overtaken, or one of them is, and is matched with an entry of the other type. -/
theorem KeyedBy.matched_or_overtaken (h : o.KeyedBy rank key) {old new : List Entry}
    (hold : Ascending rank key old) (hnew : Ascending rank key new) {x y : Entry} (hx : x ∈ old)
    (hy : y ∈ new) (htype : x.isDirectory = y.isDirectory) (hkey : key x = key y) :
    (o.Overtaken old new y ∧
      ∃ d, .matched d y ∈ o.merge old new ∧ d.isDirectory ≠ y.isDirectory) ∨
    (o.Overtaken new old y ∧
      ∃ d, .matched x d ∈ o.merge old new ∧ d.isDirectory ≠ y.isDirectory) ∨
    (¬ o.Overtaken old new y ∧ ¬ o.Overtaken new old y ∧ .matched x y ∈ o.merge old new) := by
  have hxy : position rank key x = position rank key y := position_eq htype hkey
  fun_induction merge o old new with
  | case1 new => simp at hx
  | case2 p old => simp at hy
  | case3 p old c new hn ih =>
      have hpc := h.lt_of_next_eq_lt hn
      have hne : key p ≠ key c := fun hk => by simp [h.next_eq_eq_iff.2 hk] at hn
      have hx' : x ∈ old := by
        refine (List.mem_cons.1 hx).resolve_left fun hxp => ?_
        have hlt := hpc.trans_le (hnew.le_of_mem hy)
        rw [← hxp, hxy] at hlt
        exact lt_irrefl _ hlt
      rw [h.overtaken_cons_old_iff hold hnew hpc hne,
        h.overtaken_cons_new_iff hold hnew hpc hx' hxy htype]
      simpa using ih (List.pairwise_cons.1 hold).2 hnew hx' hy
  | case4 p old c new hn ih =>
      have hcp := h.gt_of_next_eq_gt hn
      have hne : key c ≠ key p := fun hk => by simp [h.next_eq_eq_iff.2 hk.symm] at hn
      have hy' : y ∈ new := by
        refine (List.mem_cons.1 hy).resolve_left fun hyc => ?_
        have hlt := hcp.trans_le (hold.le_of_mem hx)
        rw [← hyc, hxy] at hlt
        exact lt_irrefl _ hlt
      rw [h.overtaken_cons_old_iff hnew hold hcp hne,
        h.overtaken_cons_new_iff hnew hold hcp hy' rfl rfl]
      simpa using ih hold (List.pairwise_cons.1 hnew).2 hx hy'
  | case5 p old c new hn ih =>
      have hpc := h.next_eq_eq_iff.1 hn
      rcases List.mem_cons.1 hx with rfl | hx' <;> rcases List.mem_cons.1 hy with rfl | hy'
      · refine .inr (.inr ⟨?_, ?_, List.mem_cons_self⟩)
        · exact h.not_overtaken_of_le hy rfl rfl fun d hd => hxy ▸ hold.le_of_mem hd
        · exact h.not_overtaken_of_le hx hxy htype fun d hd => hnew.le_of_mem hd
      · have hcy := (List.pairwise_cons.1 hnew).1 y hy'
        have hkeycy := hpc.symm.trans hkey
        refine .inr (.inl ⟨h.overtaken_of_matched hold hpc.symm (hxy ▸ hcy) hxy, c,
          List.mem_cons_self, isDirectory_ne_of_position_lt hkeycy hcy⟩)
      · have hpx := (List.pairwise_cons.1 hold).1 x hx'
        exact .inl ⟨h.overtaken_of_matched hnew hpc (hxy ▸ hpx) rfl, p, List.mem_cons_self,
          isDirectory_ne_of_position_lt hpc (hxy ▸ hpx)⟩
      · rw [h.overtaken_cons_cons_iff hold hnew hpc hy' rfl rfl,
          h.overtaken_cons_cons_iff hnew hold hpc.symm hx' hxy htype]
        refine (ih (List.pairwise_cons.1 hold).2 (List.pairwise_cons.1 hnew).2 hx' hy').imp ?_
          (Or.imp ?_ ?_)
        · rintro ⟨hov, d, hd, hne⟩
          exact ⟨hov, d, List.mem_cons_of_mem _ hd, hne⟩
        · rintro ⟨hov, d, hd, hne⟩
          exact ⟨hov, d, List.mem_cons_of_mem _ hd, hne⟩
        · rintro ⟨hov, hov', hm⟩
          exact ⟨hov, hov', List.mem_cons_of_mem _ hm⟩

end Keyed

end EntryOrder

end TreeWatch
