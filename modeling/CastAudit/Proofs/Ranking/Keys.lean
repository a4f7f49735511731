import CastAudit.Proofs.Ranking.Join
import CastAudit.Proofs.Text.Ends
import CastAudit.Proofs.Text.Separators

/-!
# Keys of repositories

A repository is spelt with a site before its owner or without one, with or without `.git` and a slash behind its name,
and with white space around all that. Every spelling has one key, by which the tables are joined.

* `IsRepository owner repository`, `Spells owner repository name` — what is spelt, and how;
* `repositoryKey_spelt` — the key of a spelling, and `count_slash_repositoryKey` — no key has more than one slash;
* `lookup_starTable` — a star table has the last count of each key;
* `repositoryKey_exact` — so a row of either table finds the other, however the two spell their repository.
-/

namespace CastAudit.Ranking

open Text (FrontBare BackBare)

/-- An owner and the name of a repository. -/
structure IsRepository (owner repository : Text) : Prop where
  owner_ne : owner ≠ []
  repository_ne : repository ≠ []
  owner_slash : Text.slash ∉ owner
  repository_slash : Text.slash ∉ repository
  owner_bare : FrontBare owner
  repository_bare : BackBare repository
  plain : ¬ (".git" : Text) <:+ repository

/-- A site before an owner is empty or ends in a slash. -/
def IsSite (site : Text) : Prop := site = [] ∨ site.getLast? = some Text.slash
deriving Decidable

/-- A repository behind a site, with a mark and a slash behind it that may be left out, and white space around all. -/
def Spells (owner repository name : Text) : Prop :=
  ∃ front site mark close back : Text, Text.isAllBlank front = true ∧ Text.isAllBlank back = true ∧ IsSite site ∧
    (mark = [] ∨ mark = ".git") ∧ (close = [] ∨ close = "/") ∧
    name = front ++ (site ++ (owner ++ Text.slash :: (repository ++ (mark ++ close)))) ++ back

/-! ## the key of a spelling -/

theorem countByte_eq (s : Text) (b : UInt8) : Text.countByte s b = s.count b := by
  have hfold (n : Nat) : s.foldl (fun n c => if c = b then n + 1 else n) n = n + s.count b := by
    induction s generalizing n with
    | nil => rfl
    | cons c s ih =>
      rw [List.foldl_cons, ih, List.count_cons]
      by_cases hc : c = b
      · simp [hc]
        omega
      · simp [hc]
  rw [Text.countByte, hfold, Nat.zero_add]

section Spelling

variable {owner repository site mark close : Text} (hrepo : IsRepository owner repository)
include hrepo

/-- A repository with its mark and slash does not end in white space. -/
theorem IsRepository.backBare (hmark : mark = [] ∨ mark = ".git") (hclose : close = [] ∨ close = "/") :
    BackBare (owner ++ Text.slash :: (repository ++ (mark ++ close))) := by
  have htail : BackBare (repository ++ (mark ++ close)) := by
    rcases hclose with rfl | rfl
    · rcases hmark with rfl | rfl
      · simpa using hrepo.repository_bare
      · have hlast : repository ++ ((".git" : Text) ++ []) = (repository ++ (".gi" : Text)) ++ [0x74] := by
          rw [show (".git" : Text) = (".gi" : Text) ++ [0x74] by decide]
          simp
        rw [hlast]
        exact Text.backBare_concat (by decide) (by decide) _
    · rw [← List.append_assoc]
      exact Text.backBare_concat (by decide) (by decide) _
  have hne : repository ++ (mark ++ close) ≠ [] := by simp [hrepo.repository_ne]
  rwa [Text.backBare_append (Text.startsFresh_ascii (by decide) _) (by simp), Text.backBare_cons (by decide) hne]

/-- Trimming a spelling is up to its site, and leaves a site. -/
theorem IsRepository.trim_spelt (hsite : IsSite site) (hmark : mark = [] ∨ mark = ".git")
    (hclose : close = [] ∨ close = "/") :
    ∃ site', IsSite site' ∧ Text.trim (site ++ (owner ++ Text.slash :: (repository ++ (mark ++ close)))) =
      site' ++ (owner ++ Text.slash :: (repository ++ (mark ++ close))) := by
  have hback := hrepo.backBare hmark hclose
  have hfront : FrontBare (owner ++ Text.slash :: (repository ++ (mark ++ close))) :=
    (Text.frontBare_append (Text.startsFresh_ascii (by decide) _) hrepo.owner_ne).2 hrepo.owner_bare
  rcases hsite with rfl | hsite
  · exact ⟨[], .inl rfl, Text.trim_eq_iff_bare.2 ⟨hfront, hback⟩⟩
  · obtain ⟨front, rfl⟩ := List.getLast?_eq_some_iff.1 hsite
    have hne : owner ++ Text.slash :: (repository ++ (mark ++ close)) ≠ [] := by simp [hrepo.owner_ne]
    refine ⟨Text.trimLeft front ++ [Text.slash], .inr (by simp), ?_⟩
    rw [List.append_assoc, List.append_assoc, List.singleton_append]
    exact Text.trim_append_visible (by decide) (by decide) front ((Text.backBare_cons (by decide) hne).2 hback)

/-- A slash behind a spelling is chopped, and no other one. -/
theorem IsRepository.chop_close (hmark : mark = [] ∨ mark = ".git") (hclose : close = [] ∨ close = "/") (front : Text) :
    Text.chopSuffix (front ++ (owner ++ Text.slash :: (repository ++ (mark ++ close)))) "/" =
      front ++ (owner ++ Text.slash :: (repository ++ mark)) := by
  rcases hclose with rfl | rfl
  · rw [List.append_nil]
    refine Text.chopSuffix_of_not fun hsuffix => ?_
    have hmem : Text.slash ∈ repository ++ mark := by
      obtain ⟨before, hbefore⟩ := hsuffix
      have hlast := congrArg List.getLast? hbefore
      have hne : repository ++ mark ≠ [] := by simp [hrepo.repository_ne]
      rw [show ("/" : Text) = [Text.slash] by decide, List.getLast?_concat, List.getLast?_append_of_ne_nil _ (by simp),
        List.getLast?_append_of_ne_nil _ (by simp), List.getLast?_cons, List.getLast?_eq_some_getLast hne] at hlast
      rw [Option.getD_some, Option.some.injEq] at hlast
      exact hlast ▸ List.getLast_mem hne
    rcases List.mem_append.1 hmem with hmem | hmem
    · exact hrepo.repository_slash hmem
    · rcases hmark with rfl | rfl
      · cases hmem
      · exact absurd hmem (by decide)
  · have hcat : front ++ (owner ++ Text.slash :: (repository ++ (mark ++ ("/" : Text)))) =
        (front ++ (owner ++ Text.slash :: (repository ++ mark))) ++ ("/" : Text) := by simp
    rw [hcat, Text.chopSuffix_append]

/-- The mark behind a repository is chopped, and no part of its name. -/
theorem IsRepository.chop_mark (hmark : mark = [] ∨ mark = ".git") (front : Text) :
    Text.chopSuffix (front ++ (owner ++ Text.slash :: (repository ++ mark))) ".git" =
      front ++ (owner ++ Text.slash :: repository) := by
  rcases hmark with rfl | rfl
  · rw [List.append_nil]
    refine Text.chopSuffix_of_not fun hsuffix => ?_
    have hname : (Text.slash :: repository) <:+ front ++ (owner ++ Text.slash :: repository) :=
      (List.suffix_append owner _).trans (List.suffix_append front _)
    -- of two suffixes one is a suffix of the other, and the mark holds no slash
    rcases List.suffix_or_suffix_of_suffix hsuffix hname with hmark | hlong
    · rcases List.suffix_cons_iff.1 hmark with heq | hmark
      · exact absurd (List.cons.inj heq).1 (by decide)
      · exact hrepo.plain hmark
    · exact absurd (hlong.mem (List.mem_cons_self ..)) (by decide)
  · have hcat : front ++ (owner ++ Text.slash :: (repository ++ (".git" : Text))) =
        (front ++ (owner ++ Text.slash :: repository)) ++ (".git" : Text) := by simp
    rw [hcat, Text.chopSuffix_append]

/-- The last two parts of a site with a repository are the owner and the repository. -/
theorem IsRepository.splitOn_spelt (hsite : IsSite site) :
    ∃ parts, Text.splitOn (site ++ (owner ++ Text.slash :: repository)) [Text.slash] = parts ++ [owner, repository] := by
  have hpair : Text.splitOn (owner ++ Text.slash :: repository) [Text.slash] = [owner, repository] := by
    rw [Text.splitOn_append_byte hrepo.owner_slash, Text.splitOn_of_not_mem hrepo.repository_slash]
  rcases hsite with rfl | hsite
  · exact ⟨[], hpair⟩
  · obtain ⟨front, rfl⟩ := List.getLast?_eq_some_iff.1 hsite
    refine ⟨Text.splitOn front [Text.slash], ?_⟩
    rw [List.append_assoc, List.singleton_append, Text.splitOn_append_cons, hpair]

/-- **Every spelling of a repository has its key.** -/
theorem IsRepository.repositoryKey_spelt {name : Text} (hname : Spells owner repository name) :
    repositoryKey name = owner ++ Text.slash :: repository := by
  obtain ⟨front, site, mark, close, back, hfront, hback, hsite, hmark, hclose, rfl⟩ := hname
  obtain ⟨site', hsite', htrim⟩ := hrepo.trim_spelt hsite hmark hclose
  obtain ⟨parts, hparts⟩ := hrepo.splitOn_spelt hsite'
  have hslash : ("/" : Text) = [Text.slash] := by decide
  simp only [repositoryKey, Text.trim_around hfront hback, htrim, hrepo.chop_close hmark hclose, hrepo.chop_mark hmark]
  split
  · next hshort =>
    -- a site has a slash of its own, so there is none
    have hcount : (site' ++ (owner ++ Text.slash :: repository)).count Text.slash ≤ 1 := by
      rw [← countByte_eq]
      exact of_decide_eq_true (Bool.and_eq_true_iff.1 hshort).2
    rcases hsite' with rfl | hsite'
    · rfl
    · have hpos : 0 < site'.count Text.slash := List.count_pos_iff.2 (List.mem_of_getLast? hsite')
      simp only [List.count_append, List.count_cons_self] at hcount
      omega
  · rw [hslash, hparts]
    simp

end Spelling

/-- **No key has more than one slash.** -/
theorem count_slash_repositoryKey (name : Text) : (repositoryKey name).count Text.slash ≤ 1 := by
  have hslash : ("/" : Text) = [Text.slash] := by decide
  unfold repositoryKey
  generalize Text.chopSuffix (Text.chopSuffix (Text.trim name) "/") ".git" = s
  simp only
  split
  · next hshort =>
    rw [← countByte_eq]
    exact of_decide_eq_true (Bool.and_eq_true_iff.1 hshort).2
  · split
    · next repository owner parts hparts =>
      have hfree {p : Text} (hp : p ∈ repository :: owner :: parts) : p.count Text.slash = 0 := by
        rw [← hparts, List.mem_reverse, hslash] at hp
        exact List.count_eq_zero.2 (Text.not_mem_of_mem_splitOn hp)
      simp [hslash, hfree (List.mem_cons_self ..), hfree (List.mem_cons_of_mem _ (List.mem_cons_self ..))]
    · next hfew =>
      obtain ⟨hjoin, hcount⟩ := Text.splitOn_byte_eq_iff_count.1 (Eq.refl (Text.splitOn s [Text.slash]))
      rw [← List.length_reverse, ← hslash] at hcount
      rcases hparts : (Text.splitOn s "/").reverse with _ | ⟨repository, _ | ⟨owner, parts⟩⟩
      · rw [hparts] at hcount
        simp at hcount
      · rw [hparts] at hcount
        simp at hcount
        omega
      · exact absurd hparts (hfew _ _ _)

/-! ## star tables -/

theorem lookup_insert (t : StarTable) (k key : Text) (n : Int) :
    (StarTable.insert t k n).lookup key = if key = k then some n else t.lookup key := by
  have hfilter : (t.filter fun e => e.1 != k).lookup key = if key != k then t.lookup key else none :=
    lookup_filter (· != k) t key
  rw [StarTable.insert, List.lookup_cons, hfilter]
  by_cases hk : key = k
  · simp [hk]
  · have hne : (key == k) = false := by simpa using hk
    simp [hk, hne]

/-- **A star table has the last count of each key.** -/
theorem lookup_starTable (rows : List (List Text)) (key : Text) :
    (starTable rows).lookup key = (rows.filterMap starRow?).reverse.lookup key := by
  have hfold : ∀ (es : List (Text × Int)) (t : StarTable), (es.foldl (fun t e => StarTable.insert t e.1 e.2) t).lookup key =
      (es.reverse.lookup key).or (t.lookup key) := by
    intro es
    induction es with
    | nil => exact fun t => rfl
    | cons e es ih =>
      intro t
      obtain ⟨k, n⟩ := e
      rw [List.foldl_cons, ih, lookup_insert, List.reverse_cons, List.lookup_append, Option.or_assoc]
      by_cases hkey : key = k
      · simp [hkey]
      · have hne : (key == k) = false := by simpa using hkey
        simp [hkey, List.lookup_cons, hne]
  rw [starTable, hfold]
  simp

/-! ## the join -/

/-- The text of a count: a number that is not negative, with white space around it. -/
def IsCount (text : Text) : Prop := ∃ n ∈ (Text.readStoredInt (Text.trim text)).toOption, 0 ≤ n

section Tables

variable {owner repository name : Text} (hrepo : IsRepository owner repository) (hname : Spells owner repository name)
include hrepo hname

theorem starRow?_spelt {count : Text} (hcount : IsCount count) (more : List Text) :
    ∃ n, starRow? (name :: count :: more) = some (owner ++ Text.slash :: repository, n) := by
  obtain ⟨n, hn, hpos⟩ := hcount
  refine ⟨n, ?_⟩
  cases hread : Text.readStoredInt (Text.trim count) with
  | error e =>
    rw [hread] at hn
    cases hn
  | ok m =>
    obtain rfl : m = n := by
      rw [hread] at hn
      exact Option.some.inj hn
    simp [starRow?, hread, hrepo.repositoryKey_spelt hname, Int.not_lt.2 hpos]

theorem metadataRow?_spelt {id : Text} (hid : Text.trim id ≠ []) (version : Text) (more : List Text) :
    metadataRow? (id :: version :: name :: more) =
      some ⟨Text.trim id, Text.trim version, owner ++ Text.slash :: repository⟩ := by
  -- the word for no repository holds no slash
  have hnone : owner ++ Text.slash :: repository ≠ Text.ofString "none" := by
    intro heq
    have hmem : Text.slash ∈ Text.ofString "none" := heq ▸ by simp
    exact absurd hmem (by decide)
  simp [metadataRow?, hrepo.repositoryKey_spelt hname, hnone, hid]

end Tables

/-- **A repository has one key**, whatever its spelling, so a row of either table finds the other: the package of the
metadata row is joined with the last star count of the repository, and the ranking of all packages has it. No key of any
name has more than one slash. -/
theorem repositoryKey_exact :
    (∀ name : Text, (repositoryKey name).count Text.slash ≤ 1) ∧
    ∀ owner repository : Text, IsRepository owner repository →
      (∀ name, Spells owner repository name → repositoryKey name = owner ++ Text.slash :: repository) ∧
      ∀ (starRows metadataRows : List (List Text)) (name count id version name' : Text) (more more' : List Text),
        Spells owner repository name → Spells owner repository name' →
        name :: count :: more ∈ starRows → IsCount count →
        id :: version :: name' :: more' ∈ metadataRows → Text.trim id ≠ [] →
        let row : Metadata := ⟨Text.trim id, Text.trim version, owner ++ Text.slash :: repository⟩
        row ∈ metadataTable metadataRows ∧
        (∃ n, (starRows.filterMap starRow?).reverse.lookup row.packageName = some n ∧
          join? none (starTable starRows) row =
            some { canonicalId := row.canonicalId, version := row.version, stars := n }) ∧
        row.id ∈ (rank none (starTable starRows) (metadataTable metadataRows)).map RankedPackage.id := by
  refine ⟨count_slash_repositoryKey, fun owner repository hrepo =>
    ⟨fun name hname => hrepo.repositoryKey_spelt hname, ?_⟩⟩
  intro starRows metadataRows name count id version name' more more' hname hname' hstar hcount hmetadata hid row
  have hrow : row ∈ metadataTable metadataRows :=
    List.mem_filterMap.2 ⟨_, hmetadata, metadataRow?_spelt hrepo hname' hid version more'⟩
  obtain ⟨n, hn⟩ : ∃ n, (starRows.filterMap starRow?).reverse.lookup row.packageName = some n := by
    obtain ⟨m, hm⟩ := starRow?_spelt hrepo hname hcount more
    have hmem : (row.packageName, m) ∈ (starRows.filterMap starRow?).reverse :=
      List.mem_reverse.2 (List.mem_filterMap.2 ⟨_, hstar, hm⟩)
    rw [← Option.isSome_iff_exists, List.lookup_isSome_iff]
    exact ⟨_, hmem, by simp⟩
  have hlookup : (starTable starRows).lookup row.packageName = some n := by rw [lookup_starTable, hn]
  refine ⟨hrow, ⟨n, hn, by simp [join?, hlookup]⟩, ?_⟩
  have hranking : IsRanking none (starTable starRows) (metadataTable metadataRows)
      (rank none (starTable starRows) (metadataTable metadataRows)) := isRanking_rank (by simp) _ _
  exact (hranking.listed row.id).2 ⟨row, hrow, by simp [eligible, hlookup], rfl⟩

/-- An address with `.git`, a slash and white space around it in one table, the bare name in the other. -/
theorem repositoryKey_exact_address :
    let address : Text := "\t https://x/o/r.git/\n"
    let row : Metadata := ⟨"p", "1", "o/r"⟩
    IsRepository "o" "r" ∧ Spells "o" "r" address ∧ Spells "o" "r" "o/r" ∧ repositoryKey address = "o/r" ∧
      row.id ∈ (rank none (starTable [["o/r", "7"]]) (metadataTable [[" p", "1", address]])).map RankedPackage.id := by
  intro address row
  have hrepo : IsRepository "o" "r" :=
    ⟨by decide, by decide, by decide, by decide, by decide, by decide, by decide +kernel⟩
  have haddress : Spells "o" "r" address :=
    ⟨"\t ", "https://x/", ".git", "/", "\n", by decide, by decide, by decide +kernel, .inr rfl, .inr rfl, by decide +kernel⟩
  have hbare : Spells "o" "r" "o/r" :=
    ⟨[], [], [], [], [], rfl, rfl, .inl rfl, .inl rfl, .inl rfl, by decide +kernel⟩
  have hcount : IsCount "7" := ⟨7, by decide, by decide⟩
  obtain ⟨hkey, hjoin⟩ := repositoryKey_exact.2 "o" "r" hrepo
  refine ⟨hrepo, haddress, hbare, hkey address haddress, ?_⟩
  exact (hjoin [["o/r", "7"]] [[" p", "1", address]] "o/r" "7" " p" "1" address [] [] hbare haddress
    (List.mem_singleton.2 rfl) hcount (List.mem_singleton.2 rfl) (by decide)).2.2

end CastAudit.Ranking
