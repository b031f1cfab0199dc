import TreeWatch.Filter.Profile
import TreeWatch.Proofs.Path.Spelling
import TreeWatch.Proofs.Pattern.Escape

/-!
# A profile asked about a path and about the names in it

A profile can be asked about a path, or about the text of the names that follow its root, with a
slash between any two of them. A path is matched as it is spelled, with slashes in the place of
backslashes. So both answers are the same for all patterns just if the path spells the names in that
way and no backslash is in them (`accepts_agrees_iff`).
-/

namespace TreeWatch

namespace Profile

open Pattern (Glob)

variable {p : Profile} {root path rest : Path} {names : List String} {relative : String}

/-- The answers about a path are those about what is said to follow the root in it. -/
structure Agrees (p : Profile) (path : Path) (relative : String) : Prop where
  file : p.accepts path false = p.admits relative
  directory : p.accepts path true = !p.isExcluded relative

/-- The profile for everything below a root but what is spelled in one way. -/
theorem exists_make_escape (root : Path) (text : String) :
    ∃ p, make root [] [Glob.escape text] .sensitive = .ok p ∧ p.root = root ∧
      ∀ other, p.isExcluded other = true ↔ other = text := by
  obtain ⟨g, hg, hmatch⟩ := Glob.exists_parse_escape (o := globOptions .sensitive) rfl text
  have hcompile : compile [Glob.escape text] .sensitive = .ok [g] := by
    simp [compile, Glob.parseAll, hg, bind, Except.bind, pure, Except.pure]
  refine ⟨⟨root, [], [Glob.escape text], none, some [g]⟩, ?_, rfl, fun other => ?_⟩
  · simp [make, compileSome, hcompile, Except.map, bind, Except.bind, pure, Except.pure]
  · simp [isExcluded, Glob.anyMatch, hmatch]

theorem root_of_make {includes excludes : List String} {sensitivity : CaseSensitivity}
    (h : make root includes excludes sensitivity = .ok p) : p.root = root := by
  rw [make] at h
  cases hi : compileSome includes sensitivity with
  | error e => simp [hi, bind, Except.bind] at h
  | ok is =>
      cases he : compileSome excludes sensitivity with
      | error e => simp [hi, he, bind, Except.bind] at h
      | ok es =>
          simp only [hi, he, bind, Except.bind, pure, Except.pure, Except.ok.injEq] at h
          rw [← h]

/-! ## What is matched -/

theorem accepts_of_not_isWithin (h : path.isWithin p.root = false) (isDirectory : Bool) :
    p.accepts path isDirectory = false := by
  simp [accepts, relativeText?, Path.relativeTo?, h]

theorem agrees_of_relativeText? (h : p.relativeText? path = some relative) :
    p.Agrees path relative := by
  constructor <;> simp [accepts, h]

theorem backslash_not_mem_of_relativeText? (h : p.relativeText? path = some relative) :
    '\\' ∉ relative.toList := by
  obtain ⟨r, -, rfl⟩ := Option.map_eq_some_iff.1 h
  rw [String.toList_ofList, List.mem_map]
  rintro ⟨c, -, hc⟩
  split at hc
  · exact absurd hc (by decide)
  · contradiction

theorem relativeText?_of_relativeTo? (h : path.relativeTo? p.root = some rest)
    (hrest : '\\' ∉ rest.text.toList) : p.relativeText? path = some rest.text := by
  have hsame : rest.text.toList.map (fun c => if c = '\\' then '/' else c) = rest.text.toList := by
    refine (List.map_congr_left fun c hc => if_neg ?_).trans (List.map_id _)
    rintro rfl
    exact hrest hc
  rw [relativeText?, h, Option.map_some, hsame, String.ofList_toList]

/-- What is matched are the names below the root just if they are spelled so in the path, and
without a backslash. -/
theorem relativeText?_eq_iff (h : path.components = p.root.components ++ names.map .name)
    (hne : names ≠ []) : p.relativeText? path = some ("/".intercalate names) ↔
      (∃ lead trail, path.SpelledAs p.root lead ("/".intercalate names).toList trail) ∧
      ∀ n ∈ names, '\\' ∉ n.toList := by
  have hbackslash : '\\' ∉ ("/".intercalate names).toList ↔ ∀ n ∈ names, '\\' ∉ n.toList := by
    rw [Path.mem_intercalate_iff (by decide)]
    push Not
    rfl
  rw [← Path.relativeTo?_eq_iff h hne, ← hbackslash]
  constructor
  · intro htext
    obtain ⟨lead, rest, trail, -, hpieces, hrest⟩ := Path.exists_relativeTo?_eq h hne
    have hnames := backslash_not_mem_of_relativeText? htext
    have hnone : '\\' ∉ rest := by
      intro hmem
      obtain ⟨n, hn, hc⟩ := Path.exists_name_of_mem hmem (by decide) (by decide)
      rw [hpieces] at hn
      exact hbackslash.1 hnames n (by simpa using hn) hc
    have htext' := relativeText?_of_relativeTo? hrest (by simpa using hnone)
    rw [htext] at htext'
    exact ⟨by rw [hrest, Option.some.inj htext'], hnames⟩
  · rintro ⟨hrest, hnames⟩
    exact relativeText?_of_relativeTo? hrest hnames

/-- A path that does not begin with the root of a profile is not accepted. The answers about another
one are those about the names that follow the root in it, whatever the patterns, just if the path
spells these names with one separator between any two of them and no backslash is in them. -/
theorem accepts_agrees_iff (root path : Path) :
    (path.isWithin root = false → ∀ includes excludes sensitivity p,
      make root includes excludes sensitivity = .ok p →
      ∀ isDirectory, p.accepts path isDirectory = false) ∧
    ∀ names, names ≠ [] → path.components = root.components ++ names.map .name →
      ((∀ includes excludes sensitivity p, make root includes excludes sensitivity = .ok p →
          p.Agrees path ("/".intercalate names)) ↔
        (∃ lead trail, path.SpelledAs root lead ("/".intercalate names).toList trail) ∧
        ∀ n ∈ names, '\\' ∉ n.toList) := by
  refine ⟨fun houtside includes excludes sensitivity p hp => ?_, fun names hne h => ⟨?_, ?_⟩⟩
  · obtain rfl := root_of_make hp
    exact accepts_of_not_isWithin houtside
  · intro hagrees
    obtain ⟨p, hp, rfl, hexcluded⟩ := exists_make_escape root ("/".intercalate names)
    rw [← relativeText?_eq_iff h hne]
    obtain ⟨lead, rest, trail, -, -, hrest⟩ := Path.exists_relativeTo?_eq h hne
    obtain ⟨text, htext⟩ : ∃ text, p.relativeText? path = some text :=
      ⟨_, by rw [relativeText?, hrest]; rfl⟩
    have hdirectory : p.isExcluded text = p.isExcluded ("/".intercalate names) := by
      have hsame := (hagrees _ _ _ p hp).directory
      rw [(agrees_of_relativeText? htext).directory] at hsame
      simpa using hsame
    rw [htext]
    exact congrArg some ((hexcluded _).1 (hdirectory.trans ((hexcluded _).2 rfl)))
  · intro hspelled includes excludes sensitivity p hp
    obtain rfl := root_of_make hp
    exact agrees_of_relativeText? ((relativeText?_eq_iff h hne).2 hspelled)

/-- It makes no difference how many separators stand before the names and after them. -/
theorem accepts_agrees_iff_slashes : ∃ p, make ⟨"/r/"⟩ ["a/*"] ["**/c"] .sensitive = .ok p ∧
    p.accepts ⟨"/s/a/b"⟩ true = false ∧ p.Agrees ⟨"//r//a/b/./"⟩ "a/b" := by
  obtain ⟨p, hp⟩ : ∃ p, make ⟨"/r/"⟩ ["a/*"] ["**/c"] .sensitive = .ok p := ⟨_, rfl⟩
  obtain ⟨houtside, -⟩ := accepts_agrees_iff ⟨"/r/"⟩ ⟨"/s/a/b"⟩
  obtain ⟨-, hbelow⟩ := accepts_agrees_iff ⟨"/r/"⟩ ⟨"//r//a/b/./"⟩
  refine ⟨p, hp, houtside (by decide +kernel) _ _ _ p hp true, ?_⟩
  refine (hbelow ["a", "b"] (by simp) (by decide +kernel)).2
    ⟨⟨"//r//".toList, "/./".toList, ?_⟩, ?_⟩ _ _ _ p hp
  · exact ⟨by decide +kernel, by decide +kernel, by decide +kernel,
      Path.Blank.nil.current.separator⟩
  · decide +kernel

/-- A backslash in a name is taken for a separator, and two separators are not taken for one. -/
theorem accepts_ne_admits : ∃ p, make ⟨"/r"⟩ [] ["a/b"] .sensitive = .ok p ∧
    ((⟨"/r/a\\b"⟩ : Path).components = (⟨"/r"⟩ : Path).components ++ [.name "a\\b"] ∧
      p.accepts ⟨"/r/a\\b"⟩ false = false ∧ p.admits "a\\b" = true) ∧
    ((⟨"/r/a//b"⟩ : Path).components = (⟨"/r"⟩ : Path).components ++ [.name "a", .name "b"] ∧
      p.accepts ⟨"/r/a//b"⟩ false = true ∧ p.admits "a/b" = false) := by
  refine ⟨_, rfl, ?_⟩
  decide +kernel

end Profile

end TreeWatch
