import TreeWatch.Proofs.Diff.Exact

/-!
# What a difference accounts for

Whatever the trees are and whatever the order says, a difference accounts for each entry once: an
old entry is deleted or goes over into a new one of the same type, and a new entry is created or
comes from an old one (`Accounts`). So as many directories stay as are not new, and as many files
(`diff_conserves`). A tree differs from itself in nothing, even if its siblings are in no order and
not distinct (`diff_self`).
-/

namespace TreeWatch

namespace Entry

/-- What counts in a tree: all at and below the root, if a root was found. -/
def nodes (e : Entry) : List Entry := if e.present then e.preorder else []

def countOf (directories : Bool) (es : List Entry) : ℕ :=
  es.countP fun e => e.isDirectory == directories

end Entry

namespace Event

def deletedEntries (vs : List Event) : List Entry :=
  (vs.filter fun v => v.kind.isDeletion).map entry

def createdEntries (vs : List Event) : List Entry :=
  (vs.filter fun v => v.kind.isCreation).map entry

theorem deletedEntries_append (vs ws : List Event) :
    deletedEntries (vs ++ ws) = deletedEntries vs ++ deletedEntries ws := by
  simp [deletedEntries]

theorem createdEntries_append (vs ws : List Event) :
    createdEntries (vs ++ ws) = createdEntries vs ++ createdEntries ws := by
  simp [createdEntries]

theorem deletedEntries_deletions (e : Entry) : deletedEntries (deletions e) = e.postorder := by
  simp [deletedEntries, deletions, List.filter_map, Function.comp_def]

theorem createdEntries_deletions (e : Entry) : createdEntries (deletions e) = [] := by
  simp [createdEntries, deletions, List.filter_map, Function.comp_def]

theorem deletedEntries_creations (e : Entry) : deletedEntries (creations e) = [] := by
  simp [deletedEntries, creations, List.filter_map, Function.comp_def]

theorem createdEntries_creations (e : Entry) : createdEntries (creations e) = e.preorder := by
  simp [createdEntries, creations, List.filter_map, Function.comp_def]

def IsTyped (v : Event) : Prop :=
  (v.kind.isDeletion = true → v.kind = .deleted v.entry) ∧
    (v.kind.isCreation = true → v.kind = .created v.entry)

theorem isTyped_of_mem_deletions {e : Entry} {v : Event} (hv : v ∈ deletions e) : v.IsTyped := by
  obtain ⟨x, _, rfl⟩ := mem_deletions_iff.1 hv
  exact ⟨fun _ => rfl, fun h => by simp at h⟩

theorem isTyped_of_mem_creations {e : Entry} {v : Event} (hv : v ∈ creations e) : v.IsTyped := by
  obtain ⟨x, _, rfl⟩ := mem_creations_iff.1 hv
  exact ⟨fun h => by simp at h, fun _ => rfl⟩

def IsChange (v : Event) : Prop := v.kind.isDeletion = false ∧ v.kind.isCreation = false

theorem isChange_of_mem_fileChanges {x y : Entry} {v : Event} (hv : v ∈ fileChanges x y) :
    v.IsChange := by
  rw [(mem_fileChanges_iff.1 hv).1]
  exact ⟨rfl, rfl⟩

theorem isChange_of_mem_directoryChanges {x y : Entry} {v : Event}
    (hv : v ∈ directoryChanges x y) : v.IsChange := by
  rw [(mem_directoryChanges_iff.1 hv).1]
  exact ⟨rfl, rfl⟩

end Event

/-- A row of events accounts for what was found before and after: what is not deleted goes over,
one entry into another of its type, into what is not created. -/
structure Accounts (vs : List Event) (olds news : List Entry) (kept : List (Entry × Entry)) :
    Prop where
  olds_perm : olds.Perm (Event.deletedEntries vs ++ kept.map Prod.fst)
  news_perm : news.Perm (Event.createdEntries vs ++ kept.map Prod.snd)
  type_eq : ∀ x ∈ kept, x.1.isDirectory = x.2.isDirectory
  isTyped : ∀ v ∈ vs, v.IsTyped

namespace Accounts

variable {vs ws : List Event} {olds news olds₁ news₁ : List Entry}
  {kept kept₁ : List (Entry × Entry)}

theorem nil : Accounts [] [] [] [] where
  olds_perm := .nil
  news_perm := .nil
  type_eq := by simp
  isTyped := by simp

theorem single {x y : Entry} (hvs : ∀ v ∈ vs, v.IsChange)
    (htype : x.isDirectory = y.isDirectory) : Accounts vs [x] [y] [(x, y)] where
  olds_perm := by
    have hnone : Event.deletedEntries vs = [] := by
      simp only [Event.deletedEntries, List.map_eq_nil_iff, List.filter_eq_nil_iff]
      exact fun v hv => by simp [(hvs v hv).1]
    simp [hnone]
  news_perm := by
    have hnone : Event.createdEntries vs = [] := by
      simp only [Event.createdEntries, List.map_eq_nil_iff, List.filter_eq_nil_iff]
      exact fun v hv => by simp [(hvs v hv).2]
    simp [hnone]
  type_eq := by simpa using htype
  isTyped v hv := ⟨fun h => by simp [(hvs v hv).1] at h, fun h => by simp [(hvs v hv).2] at h⟩

theorem deletions (e : Entry) : Accounts (Event.deletions e) e.preorder [] [] where
  olds_perm := by simpa [Event.deletedEntries_deletions] using e.perm_postorder_preorder.symm
  news_perm := by simp [Event.createdEntries_deletions]
  type_eq := by simp
  isTyped _ := Event.isTyped_of_mem_deletions

theorem creations (e : Entry) : Accounts (Event.creations e) [] e.preorder [] where
  olds_perm := by simp [Event.deletedEntries_creations]
  news_perm := by simp [Event.createdEntries_creations]
  type_eq := by simp
  isTyped _ := Event.isTyped_of_mem_creations

theorem of_perm (h : Accounts vs olds news kept) (holds : olds₁.Perm olds)
    (hnews : news₁.Perm news) : Accounts vs olds₁ news₁ kept :=
  ⟨holds.trans h.olds_perm, hnews.trans h.news_perm, h.type_eq, h.isTyped⟩

private theorem perm_append_append {as bs cs ds : List Entry} :
    (as ++ bs ++ (cs ++ ds)).Perm (as ++ cs ++ (bs ++ ds)) := by
  rw [List.append_assoc, List.append_assoc]
  exact (List.perm_append_comm_assoc bs cs ds).append_left as

theorem append (h : Accounts vs olds news kept) (h₁ : Accounts ws olds₁ news₁ kept₁) :
    Accounts (vs ++ ws) (olds ++ olds₁) (news ++ news₁) (kept ++ kept₁) where
  olds_perm := by
    rw [Event.deletedEntries_append, List.map_append]
    exact (h.olds_perm.append h₁.olds_perm).trans perm_append_append
  news_perm := by
    rw [Event.createdEntries_append, List.map_append]
    exact (h.news_perm.append h₁.news_perm).trans perm_append_append
  type_eq x hx := (List.mem_append.1 hx).elim (h.type_eq x) (h₁.type_eq x)
  isTyped v hv := (List.mem_append.1 hv).elim (h.isTyped v) (h₁.isTyped v)

theorem exists_flatMap {α : Type} {f : α → List Event} {g g₁ : α → List Entry} {l : List α}
    (h : ∀ a ∈ l, ∃ kept, Accounts (f a) (g a) (g₁ a) kept) :
    ∃ kept, Accounts (l.flatMap f) (l.flatMap g) (l.flatMap g₁) kept := by
  induction l with
  | nil => exact ⟨[], nil⟩
  | cons a l ih =>
      obtain ⟨kept, hkept⟩ := h a List.mem_cons_self
      obtain ⟨kept₁, hkept₁⟩ := ih fun b hb => h b (List.mem_cons_of_mem a hb)
      exact ⟨kept ++ kept₁, hkept.append hkept₁⟩

/-- Of each type, as many old entries are not deleted as new ones are not created. -/
theorem countOf_eq (h : Accounts vs olds news kept) (directories : Bool) :
    ∃ n, Entry.countOf directories olds
        = Entry.countOf directories (Event.deletedEntries vs) + n ∧
      Entry.countOf directories news
        = Entry.countOf directories (Event.createdEntries vs) + n := by
  refine ⟨Entry.countOf directories (kept.map Prod.fst), ?_, ?_⟩
  · rw [Entry.countOf, h.olds_perm.countP_eq, List.countP_append]
    rfl
  · have hkept : Entry.countOf directories (kept.map Prod.fst)
        = Entry.countOf directories (kept.map Prod.snd) := by
      rw [Entry.countOf, Entry.countOf, List.countP_map, List.countP_map]
      exact List.countP_congr fun x hx => by simp [h.type_eq x hx]
    rw [hkept, Entry.countOf, h.news_perm.countP_eq, List.countP_append]
    rfl

end Accounts

namespace EntryOrder

/-- The events of what was found in a directory account for it, if those of each pairing do. -/
theorem exists_accounts_childEvents (o : EntryOrder) {old new : List Entry}
    (h : ∀ q ∈ o.pairings old new, ∃ kept, Accounts (o.pairingEvents q) q.olds q.news kept) :
    ∃ kept, Accounts (o.childEvents old new) (old.flatMap Entry.preorder)
      (new.flatMap Entry.preorder) kept := by
  obtain ⟨kept, hkept⟩ := Accounts.exists_flatMap h
  rw [Pairing.flatMap_olds, Pairing.flatMap_news] at hkept
  exact ⟨kept, hkept.of_perm ((perm_olds_pairings o old new).symm.flatMap_right _)
    ((perm_news_pairings o old new).symm.flatMap_right _)⟩

/-- Two versions of a directory account for themselves and for all below them. -/
theorem exists_accounts_directory {vs ws : List Event} {p c : Entry}
    (hp : p.isDirectory = true) (hc : c.isDirectory = true) (hws : ∀ v ∈ ws, v.IsChange)
    (h : ∃ kept, Accounts vs (p.children.flatMap Entry.preorder)
      (c.children.flatMap Entry.preorder) kept) :
    ∃ kept, Accounts (vs ++ ws) p.preorder c.preorder kept := by
  obtain ⟨kept, hkept⟩ := h
  have hself : Accounts ws [p] [c] [(p, c)] := Accounts.single hws (hp.trans hc.symm)
  refine ⟨kept ++ [(p, c)], (hkept.append hself).of_perm ?_ ?_⟩
  · rw [Entry.preorder_eq_append p]
    exact List.perm_append_comm
  · rw [Entry.preorder_eq_append c]
    exact List.perm_append_comm

/-- The events of a pairing account for its versions and all below them. -/
theorem exists_accounts_pairingEvents (o : EntryOrder) (q : Pairing) :
    ∃ kept, Accounts (o.pairingEvents q) q.olds q.news kept := by
  have hreplace (p c : Entry) : ∃ kept,
      Accounts (Event.deletions p ++ Event.creations c) p.preorder c.preorder kept :=
    ⟨[], by simpa using (Accounts.deletions p).append (Accounts.creations c)⟩
  induction q using o.pairing_induction with
  | deleted p =>
      rw [Pairing.olds_deleted, Pairing.news_deleted]
      exact ⟨[], Accounts.deletions p⟩
  | created c =>
      rw [Pairing.olds_created, Pairing.news_created]
      exact ⟨[], Accounts.creations c⟩
  | replaced p c =>
      rw [Pairing.olds_replaced, Pairing.news_replaced]
      exact hreplace p c
  | differ p c hne =>
      rw [pairingEvents, matchedEvents_of_ne hne, Pairing.olds_matched, Pairing.news_matched]
      exact hreplace p c
  | files p c hp hc =>
      rw [pairingEvents, matchedEvents_files hp hc, Pairing.olds_matched, Pairing.news_matched,
        Entry.preorder_of_not_directory hp, Entry.preorder_of_not_directory hc]
      exact ⟨[(p, c)], Accounts.single (fun _ => Event.isChange_of_mem_fileChanges)
        (hp.trans hc.symm)⟩
  | directories p c hp hc ih =>
      rw [pairingEvents, matchedEvents_directory o hp hc, Pairing.olds_matched,
        Pairing.news_matched]
      exact exists_accounts_directory hp hc (fun _ => Event.isChange_of_mem_directoryChanges)
        (o.exists_accounts_childEvents ih)

/-- The difference of two trees accounts for them, whatever the order says. -/
theorem exists_accounts_diff (o : EntryOrder) (old new : Entry) :
    ∃ kept, Accounts (o.diff old new) old.nodes new.nodes kept := by
  cases hold : old.present with
  | false =>
      cases hnew : new.present with
      | false => exact ⟨[], by simpa [diff, Entry.nodes, hold, hnew] using Accounts.nil⟩
      | true => exact ⟨[], by simpa [diff, Entry.nodes, hold, hnew] using Accounts.creations new⟩
  | true =>
      cases hnew : new.present with
      | false => exact ⟨[], by simpa [diff, Entry.nodes, hold, hnew] using Accounts.deletions old⟩
      | true =>
          rw [Entry.nodes, Entry.nodes, if_pos hold, if_pos hnew]
          by_cases hd : old.isDirectory = true ∧ new.isDirectory = true
          · rw [diff_directories hd.1 hd.2, ← List.append_nil (o.childEvents _ _)]
            exact exists_accounts_directory hd.1 hd.2 (by simp)
              (o.exists_accounts_childEvents fun q _ => o.exists_accounts_pairingEvents q)
          · rw [diff_eq_matchedEvents hold hnew hd]
            have h := o.exists_accounts_pairingEvents (.matched old new)
            rwa [Pairing.olds_matched, Pairing.news_matched] at h

/-- For all trees, whether or not their siblings are sorted or distinct, and whatever the order
says of entries: what is deleted are entries of the old tree, each as often as it is there at
most, what is created are entries of the new one, each is reported by its type, all others go
over from the old tree into the new one and keep their types, and so of each type as many are not
deleted as are not created. -/
theorem diff_conserves (o : EntryOrder) (old new : Entry) :
    (Event.deletedEntries (o.diff old new)).Subperm old.nodes ∧
    (Event.createdEntries (o.diff old new)).Subperm new.nodes ∧
    (∃ kept, Accounts (o.diff old new) old.nodes new.nodes kept) ∧
    ∀ directories : Bool,
      Entry.countOf directories old.nodes
          - Entry.countOf directories (Event.deletedEntries (o.diff old new))
        = Entry.countOf directories new.nodes
          - Entry.countOf directories (Event.createdEntries (o.diff old new)) := by
  obtain ⟨kept, hkept⟩ := o.exists_accounts_diff old new
  refine ⟨?_, ?_, ⟨kept, hkept⟩, fun directories => ?_⟩
  · exact (List.sublist_append_left _ _).subperm.trans hkept.olds_perm.symm.subperm
  · exact (List.sublist_append_left _ _).subperm.trans hkept.news_perm.symm.subperm
  · obtain ⟨n, holds, hnews⟩ := hkept.countOf_eq directories
    omega

/-! ## A tree and itself -/

section Reflexive

variable {o : EntryOrder}

/-- If every entry is the same as itself, the merge of siblings with themselves stays in step. -/
theorem merge_self (h : ∀ e, o.same e e = true) (es : List Entry) :
    o.merge es es = es.map fun e => .matched e e := by
  induction es with
  | nil => simp [merge]
  | cons e es ih =>
      have hnext : o.next e e = .eq := by rw [next, if_pos (h e)]
      rw [merge, hnext, List.map_cons, ← ih]

theorem pairings_self (h : ∀ e, o.same e e = true) (es : List Entry) :
    o.pairings es es = es.map fun e => .matched e e := by
  rw [pairings, merge_self h]
  induction es with
  | nil => simp [pairUp]
  | cons e es ih => rw [List.map_cons, pairUp, ih, List.map_cons]

theorem childEvents_self (h : ∀ e, o.same e e = true) {es : List Entry}
    (hes : ∀ e ∈ es, o.matchedEvents e e = []) : o.childEvents es es = [] := by
  rw [childEvents, pairings_self h, List.flatMap_map, List.flatMap_eq_nil_iff]
  exact hes

theorem matchedEvents_self (h : ∀ e, o.same e e = true) (e : Entry) :
    o.matchedEvents e e = [] := by
  induction e using Entry.induction_children with
  | step e ih =>
      cases hd : e.isDirectory with
      | false => simp [matchedEvents_files hd hd, Event.fileChanges]
      | true =>
          rw [matchedEvents_directory o hd hd, childEvents_self h ih]
          simp [Event.directoryChanges]

/-- If every entry is the same as itself, a tree does not differ from itself. -/
theorem diff_self (h : ∀ e, o.same e e = true) (t : Entry) : o.diff t t = [] := by
  cases ht : t.present with
  | false => simp [diff, ht]
  | true =>
      by_cases hd : t.isDirectory = true
      · rw [diff_directories hd hd]
        exact childEvents_self h fun e _ => matchedEvents_self h e
      · rw [diff_eq_matchedEvents ht ht (by simp [hd])]
        exact matchedEvents_self h t

end Reflexive

end EntryOrder

namespace Comparator

theorem same_self (c : Comparator) (e : Entry) : c.same e e = true := by
  have hself (c : Comparator) : (c.order e e == .eq) = true := by
    have := c.transCmp_order
    simp [Std.ReflCmp.compare_self]
  cases c with
  | directoriesFirst inner => exact inner.same_self e
  | reversed inner => exact inner.same_self e
  | name s => exact hself (.name s)
  | path s => exact hself (.path s)
  | size => exact hself .size
  | modified => exact hself .modified
  | composite parts => exact hself (.composite parts)

end Comparator

end TreeWatch
