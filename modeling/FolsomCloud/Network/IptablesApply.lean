import FolsomCloud.Network.Iptables
import Mathlib.Data.List.Nodup

set_option autoImplicit false

/-!
# Network: what an apply writes, and what runs of table operations keep

`Iptables.lean` models `IptablesManager._modify_rules` and the lines it can lose; here are
the guarantees it does give.  The two weed-outs are specified once, over `lineKey`, the key
`_weed_out_duplicates` gives a line: the first keeps lines with pairwise distinct keys and one
line for each key (`weedOutDuplicates_pairwise`, `weedOutDuplicates_covers`), the second keeps
every line that no queued removal names (`weedOutRemoves_keeps`).  `newFilter`
(`Iptables.lean`) is the text the rule loop and the chain inserts hand to them.

From these: the rewrite raises nothing on a saved text whose rule lines close their counts
(`modifyRules_isSome`); it never writes two lines with one key (`modifyRules_keys_pairwise`);
and it keeps every bottom rule of the table that no queued removal matches
(`modifyRules_keeps_bottom_rule`).  Over the runs of table operations from an empty table,
every wrapped rule stays in a declared chain (`TableWF`), so the next apply declares the chain
of every wrapped rule (`runOps_apply_declares_rule_chains`).
-/

namespace FolsomCloud.Network

open PyStr

/-! ## String facts -/

namespace PyStr

/-- `in` is the infix relation of the character lists. -/
theorem isInfix_iff {needle : List Char} : ∀ {hay : List Char},
    isInfix needle hay = true ↔ needle <:+: hay
  | [] => by cases needle <;> simp [isInfix]
  | c :: cs => by
    rw [isInfix, Bool.or_eq_true, List.isPrefixOf_iff_prefix, isInfix_iff, List.infix_cons_iff]

/-- A text in which `needle` is not does not contain any text that contains it. -/
theorem isIn_mono {needle s t : String} (hs : isIn needle s = true) (h : s.data <:+: t.data) :
    isIn needle t = true :=
  isInfix_iff.2 ((isInfix_iff.1 hs).trans h)

/-- Stripping keeps a run of the text. -/
theorem infix_strip (s : String) : (strip s).data <:+: s.data := by
  have h1 := List.dropWhile_suffix isSpace (l := (s.data.dropWhile isSpace).reverse)
  rw [← List.reverse_prefix, List.reverse_reverse] at h1
  exact h1.isInfix.trans (List.dropWhile_suffix isSpace).isInfix

/-- Stripping a text that begins with a non-space keeps that first character. -/
theorem strip_head {s : String} {c : Char} {m : List Char} (hs : s.data = c :: m)
    (hc : isSpace c = false) : ∃ w, (strip s).data = c :: w := by
  have hd : (c :: m).dropWhile isSpace = c :: m := by simp [List.dropWhile_cons, hc]
  simp only [strip, hs, hd, List.reverse_cons]
  rw [List.dropWhile_append]
  split
  · exact ⟨[], by simp [List.dropWhile_cons, hc]⟩
  · exact ⟨(m.reverse.dropWhile isSpace).reverse, by simp⟩

/-- Stripping a text that begins and ends with a non-space leaves it as it is. -/
theorem strip_eq_self {s : String} {c d : Char} {m : List Char} (hs : s.data = c :: (m ++ [d]))
    (hc : isSpace c = false) (hd : isSpace d = false) : strip s = s := by
  have h1 : (c :: (m ++ [d])).dropWhile isSpace = c :: (m ++ [d]) := by
    simp [List.dropWhile_cons, hc]
  have h2 : (c :: (m ++ [d])).reverse.dropWhile isSpace = (c :: (m ++ [d])).reverse := by
    simp [List.dropWhile_cons, hd]
  cases s
  simp only [strip] at hs ⊢
  subst hs
  rw [h1, h2, List.reverse_reverse]

/-- Stripping drops a leading space. -/
theorem strip_cons_space {c : Char} (m : List Char) (hc : isSpace c = true) :
    strip ⟨c :: m⟩ = strip ⟨m⟩ := by
  simp [strip, List.dropWhile_cons, hc]

/-- `s.split(sep, 1)` finds `sep` exactly when it is in the text. -/
theorem afterFirst_isSome_iff (sep : Char) (s : String) :
    (afterFirst sep s).isSome ↔ sep ∈ s.data := by
  unfold afterFirst
  split
  · next h =>
    simp only [Option.isSome_none, Bool.false_eq_true, false_iff]
    exact fun hm => by simpa using List.dropWhile_eq_nil_iff.1 h sep hm
  · next x rest h =>
    simp only [Option.isSome_some, true_iff]
    by_contra hn
    have : s.data.dropWhile (· ≠ sep) = [] :=
      List.dropWhile_eq_nil_iff.2 fun y hy => by simpa using fun e : y = sep => hn (e ▸ hy)
    rw [this] at h
    cases h

/-- What follows the separator is a run at the end of the text. -/
theorem afterFirst_suffix {sep : Char} {s k : String} (h : afterFirst sep s = some k) :
    k.data <:+ s.data := by
  unfold afterFirst at h
  split at h
  · cases h
  · next x rest hd =>
    cases h
    exact (List.suffix_cons x rest).trans (hd ▸ List.dropWhile_suffix _)

end PyStr

/-! ## The weed-outs -/

section WeedOut

variable (binaryName : String)

/-- The key `_weed_out_duplicates` gives a line: the text after the counts of a rule line
`[p:b] ...`, the line itself otherwise, stripped; `none` for a `[` line without `]`. -/
def lineKey (line : String) : Option String :=
  (if startswith line "[" then afterFirst ']' line else some line).map strip

theorem lineKey_isSome_iff (line : String) :
    (lineKey line).isSome ↔ (startswith line "[" = true → ']' ∈ line.data) := by
  unfold lineKey
  split <;> simp_all [afterFirst_isSome_iff]

theorem weedOutDuplicates_cons (seen : List String) (line : String) (rest : List String) :
    weedOutDuplicates seen (line :: rest) = (lineKey line).bind fun key =>
      if key ∈ seen then weedOutDuplicates seen rest
      else (line :: ·) <$> weedOutDuplicates (key :: seen) rest := by
  rw [weedOutDuplicates, lineKey]
  split <;> [cases afterFirst ']' line; skip] <;> rfl

/-- The weed-out keeps lines with pairwise distinct keys, none of them seen before. -/
theorem weedOutDuplicates_pairwise :
    ∀ (seen l l' : List String), weedOutDuplicates seen l = some l' →
      (∀ y ∈ l', ∃ k, lineKey y = some k ∧ k ∉ seen) ∧
        l'.Pairwise (fun x y => lineKey x ≠ lineKey y)
  | _, [], l', h => by cases h; simp
  | seen, line :: rest, l', h => by
    rw [weedOutDuplicates_cons] at h
    obtain ⟨key, hkey, h⟩ := Option.bind_eq_some.1 h
    split_ifs at h with hs
    · exact weedOutDuplicates_pairwise seen rest l' h
    obtain ⟨l'', h'', rfl⟩ := Option.map_eq_some'.1 h
    obtain ⟨h1, h2⟩ := weedOutDuplicates_pairwise (key :: seen) rest l'' h''
    have hfresh : ∀ y ∈ l'', ∃ k, lineKey y = some k ∧ k ≠ key ∧ k ∉ seen := fun y hy => by
      obtain ⟨k, hk, hks⟩ := h1 y hy
      exact ⟨k, hk, by simpa [not_or] using hks⟩
    refine ⟨?_, List.pairwise_cons.2 ⟨fun y hy => ?_, h2⟩⟩
    · rintro y (_ | ⟨_, hy⟩)
      · exact ⟨key, hkey, hs⟩
      · obtain ⟨k, hk, -, hks⟩ := hfresh y hy
        exact ⟨k, hk, hks⟩
    · obtain ⟨k, hk, hne, -⟩ := hfresh y hy
      rw [hkey, hk]
      exact fun e => hne (Option.some.inj e).symm

/-- Every key of the input not seen before is the key of a line the weed-out keeps. -/
theorem weedOutDuplicates_covers :
    ∀ (seen l l' : List String), weedOutDuplicates seen l = some l' →
      ∀ x ∈ l, ∀ k, lineKey x = some k → k ∉ seen → ∃ y ∈ l', lineKey y = some k
  | _, [], _, _, x, hx, _, _, _ => absurd hx (List.not_mem_nil x)
  | seen, line :: rest, l', h, x, hx, k, hxk, hks => by
    rw [weedOutDuplicates_cons] at h
    obtain ⟨key, hkey, h⟩ := Option.bind_eq_some.1 h
    have hline : x = line → k = key := fun e => by
      subst e; exact Option.some.inj (hxk.symm.trans hkey)
    split_ifs at h with hs
    · rcases List.mem_cons.1 hx with e | hx
      · exact absurd (hline e ▸ hs) hks
      · exact weedOutDuplicates_covers seen rest l' h x hx k hxk hks
    obtain ⟨l'', h'', rfl⟩ := Option.map_eq_some'.1 h
    by_cases hk : k = key
    · exact ⟨line, .head _, hk ▸ hkey⟩
    rcases List.mem_cons.1 hx with e | hx
    · exact absurd (hline e) hk
    obtain ⟨y, hy, hyk⟩ := weedOutDuplicates_covers (key :: seen) rest l'' h'' x hx k hxk
      (by simp [hk, hks])
    exact ⟨y, .tail _ hy, hyk⟩

/-- The weed-out fails only on a line without a key. -/
theorem weedOutDuplicates_isSome :
    ∀ (seen l : List String), (∀ x ∈ l, (lineKey x).isSome) → (weedOutDuplicates seen l).isSome
  | _, [], _ => rfl
  | seen, line :: rest, h => by
    obtain ⟨key, hkey⟩ := Option.isSome_iff_exists.1 (h line (.head _))
    have hrest : ∀ x ∈ rest, (lineKey x).isSome := fun x hx => h x (.tail _ hx)
    rw [weedOutDuplicates_cons, hkey, Option.some_bind]
    split_ifs
    · exact weedOutDuplicates_isSome seen rest hrest
    · simpa [Option.isSome_map] using weedOutDuplicates_isSome (key :: seen) rest hrest

/-- The weed-out of the remove lists keeps a chain line whose name is not queued, a rule
line that no queued rule matches, and every other line. -/
theorem weedOutRemoves_keeps :
    ∀ (rc : List String) (rr : List IptablesRule) (l k qc : List String) (q : List IptablesRule),
      weedOutRemoves binaryName rc rr l = some (k, qc, q) → ∀ x ∈ l,
        (startswith x ":" = true → chainLineName x ∉ rc) →
        (startswith x "[" = true → ∀ r ∈ rr, some (removeKey binaryName r) ≠ lineKey x) → x ∈ k
  | _, _, [], _, _, _, _, x, hx, _, _ => absurd hx (List.not_mem_nil x)
  | rc, rr, line :: rest, k, qc, q, h, x, hx, hc, hr => by
    have keep : ∀ rc, (fun (k, q) => (line :: k, q)) <$> weedOutRemoves binaryName rc rr rest =
        some (k, qc, q) → (startswith x ":" = true → chainLineName x ∉ rc) → x ∈ k :=
      fun rc h hc => by
        obtain ⟨⟨k', qc', q'⟩, hk, he⟩ := Option.map_eq_some'.1 h
        cases he
        rcases List.mem_cons.1 hx with rfl | hx
        · exact .head _
        · exact .tail _ (weedOutRemoves_keeps rc rr rest _ _ _ hk x hx hc hr)
    unfold weedOutRemoves at h
    dsimp only at h
    split_ifs at h with h1 h2 h3
    · rcases List.mem_cons.1 hx with rfl | hx
      · exact absurd h2 (hc h1)
      · exact weedOutRemoves_keeps _ rr rest k qc q h x hx
          (fun hs hm => hc hs (List.mem_of_mem_erase hm)) hr
    · exact keep rc h hc
    · obtain ⟨key, hkey, h⟩ := Option.bind_eq_some.1 h
      split at h
      · next r hf =>
        rcases List.mem_cons.1 hx with rfl | hx
        · refine absurd ?_ (hr h3 r (List.mem_of_find?_eq_some hf))
          simp only [lineKey, h3, if_true, hkey, Option.map_some']
          simpa using List.find?_some hf
        · exact weedOutRemoves_keeps rc _ rest k qc q h x hx hc
            fun hs r' hm => hr hs r' (List.mem_of_mem_erase hm)
      · exact keep rc h hc
    · exact keep rc h hc

/-- The weed-out of the remove lists fails only on a line without a key. -/
theorem weedOutRemoves_isSome :
    ∀ (rc : List String) (rr : List IptablesRule) (l : List String),
      (∀ x ∈ l, (lineKey x).isSome) → (weedOutRemoves binaryName rc rr l).isSome
  | _, _, [], _ => rfl
  | rc, rr, line :: rest, h => by
    have hrest : ∀ x ∈ rest, (lineKey x).isSome := fun x hx => h x (.tail _ hx)
    have keep : ∀ rc, ((fun (k, q) => (line :: k, q)) <$>
        weedOutRemoves binaryName rc rr rest).isSome := fun rc => by
      simpa [Option.isSome_map] using weedOutRemoves_isSome rc rr rest hrest
    unfold weedOutRemoves
    dsimp only
    split_ifs with h1 h2 h3
    · exact weedOutRemoves_isSome _ rr rest hrest
    · exact keep rc
    · obtain ⟨key, hkey⟩ := Option.isSome_iff_exists.1
        ((afterFirst_isSome_iff ']' line).2 ((lineKey_isSome_iff line).1 (h line (.head _)) h3))
      simp only [hkey, Option.bind_eq_bind, Option.some_bind]
      split
      · exact weedOutRemoves_isSome rc _ rest hrest
      · exact keep rc
    · exact keep rc

/-- A key is a run of its line. -/
theorem infix_of_lineKey {line k : String} (h : lineKey line = some k) : k.data <:+: line.data := by
  unfold lineKey at h
  obtain ⟨k', hk', rfl⟩ := Option.map_eq_some'.1 h
  split at hk'
  · exact (infix_strip k').trans (afterFirst_suffix hk').isInfix
  · cases hk'; exact infix_strip _

/-- The key of a rule's text begins with the `-` of `-A`. -/
theorem lineKey_str (r : IptablesRule) : ∃ w, lineKey (r.str binaryName) = some ⟨'-' :: w⟩ := by
  have hs : startswith (r.str binaryName) "[" = true := by
    simp [IptablesRule.str, startswith, List.isPrefixOf]
  let v := 'A' :: ' ' :: ((if r.wrap then binaryName ++ "-" ++ r.chain else r.chain).data ++
    ' ' :: r.rule.data)
  have hv : (r.str binaryName).data.drop 5 = ' ' :: '-' :: v := by simp [v, IptablesRule.str]
  obtain ⟨w, hw⟩ := strip_head (s := ⟨'-' :: v⟩) rfl rfl
  refine ⟨w, ?_⟩
  simp only [lineKey, hs, if_true, afterFirst_str, Option.map_some', hv,
    strip_cons_space (c := ' ') _ rfl]
  rw [← hw]

/-- A line `:...]` is its own key. -/
theorem lineKey_colon {line : String} {m : List Char} (h : line.data = ':' :: (m ++ [']'])) :
    lineKey line = some line := by
  have hs : startswith line "[" = false := by simp [startswith, h, List.isPrefixOf]
  simp only [lineKey, hs, Bool.false_eq_true, if_false, Option.map_some',
    strip_eq_self h rfl rfl]

/-- The key of a line `:...` begins with `:`. -/
theorem lineKey_colon_head {line k : String} (hs : startswith line ":" = true)
    (h : lineKey line = some k) : ∃ w, k.data = ':' :: w := by
  obtain ⟨m, hm⟩ : ∃ m, line.data = ':' :: m := by
    rcases hd : line.data with _ | ⟨c, m⟩ <;> simp [startswith, hd, List.isPrefixOf] at hs
    exact ⟨m, by rw [hs]⟩
  have hb : startswith line "[" = false := by simp [startswith, hm, List.isPrefixOf]
  simp only [lineKey, hb, Bool.false_eq_true, if_false, Option.map_some', Option.some.injEq] at h
  subst h
  exact strip_head hm rfl

end WeedOut

/-! ## The rewrite -/

section Rewrite

variable (binaryName : String)

/-- Every line of the rule loop's lists is a saved line without `binary_name` or the text
of one of the rules `rules`. -/
def LoopLines (L : List String) (rules : List IptablesRule)
    (s : List String × List String × List String) : Prop :=
  ∀ x, (x ∈ s.1 ∨ x ∈ s.2.1 ∨ x ∈ s.2.2) →
    (x ∈ L ∧ isIn binaryName x = false) ∨ ∃ r ∈ rules, x = r.str binaryName

theorem eq_or_mem_of_getD_getLast {l : List String} {d x : String} (h : x = l.getLast?.getD d) :
    x ∈ l ∨ x = d := by
  cases hl : l.getLast? with
  | none => exact .inr (by simpa [hl] using h)
  | some y => exact .inl (by simpa [hl, h] using List.mem_of_getLast?_eq_some hl)

/-- `bot_rules` after a turn of the rule loop. -/
@[simp] theorem placeRule_bot (s : List String × List String × List String) (r : IptablesRule) :
    (placeRule binaryName s r).2.2 =
      if r.top then s.2.2 else s.2.2 ++ [r.str binaryName] := by
  obtain ⟨nf, our, bot⟩ := s
  by_cases ht : r.top = true <;> simp [placeRule, ht]

theorem placeRule_loopLines {L : List String} {rules : List IptablesRule}
    {s : List String × List String × List String} (hs : LoopLines binaryName L rules s)
    {r : IptablesRule} (hr : r ∈ rules) :
    LoopLines binaryName L rules (placeRule binaryName s r) := by
  obtain ⟨nf, our, bot⟩ := s
  intro x hx
  by_cases ht : r.top = true
  · simp only [placeRule, ht, if_true, List.mem_append, List.mem_singleton] at hx
    rcases hx with hx | (hx | hx) | hx
    · exact hs x (.inl (List.mem_filter.1 hx).1)
    · exact hs x (.inr (.inl hx))
    · rcases eq_or_mem_of_getD_getLast hx with hx | hx
      · exact hs x (.inl (List.mem_filter.1 hx).1)
      · exact .inr ⟨r, hr, hx⟩
    · exact hs x (.inr (.inr hx))
  · simp only [placeRule, ht, Bool.false_eq_true, if_false, List.mem_append,
      List.mem_singleton] at hx
    rcases hx with hx | hx | hx | hx
    · exact hs x (.inl hx)
    · exact hs x (.inr (.inl hx))
    · exact hs x (.inr (.inr hx))
    · exact .inr ⟨r, hr, hx⟩

theorem foldl_placeRule_loopLines {L : List String} {rules : List IptablesRule} :
    ∀ (rs : List IptablesRule) (s : List String × List String × List String),
      (∀ r ∈ rs, r ∈ rules) → LoopLines binaryName L rules s →
        LoopLines binaryName L rules (rs.foldl (placeRule binaryName) s)
  | [], _, _, hs => hs
  | r :: rs, _, hrs, hs => foldl_placeRule_loopLines rs _ (fun r' h => hrs r' (.tail _ h))
      (placeRule_loopLines binaryName hs (hrs r (.head _)))

/-- The rule loop keeps what is in `bot_rules`, and puts there the text of every bottom
rule. -/
theorem mem_foldl_placeRule_bot :
    ∀ (rs : List IptablesRule) (s : List String × List String × List String) (x : String),
      (x ∈ s.2.2 ∨ ∃ r ∈ rs, r.top = false ∧ x = r.str binaryName) →
        x ∈ (rs.foldl (placeRule binaryName) s).2.2
  | [], _, _, .inl h => h
  | [], _, _, .inr ⟨_, h, _⟩ => absurd h (List.not_mem_nil _)
  | r :: rs, ⟨nf, our, bot⟩, x, h => by
    refine mem_foldl_placeRule_bot rs _ x ?_
    rcases h with h | ⟨r', hr', ht, rfl⟩
    · left; rw [placeRule_bot]; split <;> simp [h]
    · rcases List.mem_cons.1 hr' with rfl | hr'
      · left; simp [ht]
      · exact .inr ⟨r', hr', ht, rfl⟩

/-- Every line of `newFilter` is a saved line without `binary_name`, the text of a rule, or
a chain line of the table. -/
theorem mem_newFilter {L : List String} {T : IptablesTable} {x : String}
    (hx : x ∈ newFilter binaryName L T) :
    (x ∈ L ∧ isIn binaryName x = false) ∨ (∃ r ∈ T.rules, x = r.str binaryName) ∨
      (∃ n ∈ T.unwrappedChains, x = ":" ++ n ++ " - [0:0]") ∨
      ∃ n ∈ T.chains, x = ":" ++ binaryName ++ "-" ++ n ++ " - [0:0]" := by
  have hl := foldl_placeRule_loopLines binaryName (L := L) T.rules
    (L.filter fun line => !isIn binaryName line, [], []) (fun _ h => h)
    fun x hx => by simp_all [List.mem_filter]
  simp only [newFilter, mem_insertAt, List.mem_append, List.mem_map] at hx
  rcases hx with ⟨n, hn, rfl⟩ | ⟨n, hn, rfl⟩ | (hx | hx) | hx
  · exact .inr (.inr (.inr ⟨n, hn, rfl⟩))
  · exact .inr (.inr (.inl ⟨n, hn, rfl⟩))
  · exact (hl x (.inr (.inl hx))).imp_right .inl
  · exact (hl x (.inr (.inr hx))).imp_right .inl
  · exact (hl x (.inl hx)).imp_right .inl

/-- A chain line is its own key. -/
theorem lineKey_chainLine (n : String) :
    lineKey (":" ++ n ++ " - [0:0]") = some (":" ++ n ++ " - [0:0]") :=
  lineKey_colon (m := n.data ++ [' ', '-', ' ', '[', '0', ':', '0']) (by simp)

/-- A wrapped chain's line is its own key. -/
theorem lineKey_wrappedChainLine (c : String) :
    lineKey (":" ++ binaryName ++ "-" ++ c ++ " - [0:0]") =
      some (":" ++ binaryName ++ "-" ++ c ++ " - [0:0]") := by
  have h := lineKey_chainLine (binaryName ++ "-" ++ c)
  simp only [String.append_assoc] at h ⊢
  exact h

/-- Every line handed to the weed-outs has a key when every saved `[` line closes its counts:
the table's own lines always do. -/
theorem newFilter_keys {L : List String} (T : IptablesTable)
    (hL : ∀ x ∈ L, startswith x "[" = true → ']' ∈ x.data) :
    ∀ x ∈ newFilter binaryName L T, (lineKey x).isSome := fun x hx => by
  rcases mem_newFilter binaryName hx with ⟨hx, -⟩ | ⟨r, -, rfl⟩ | ⟨n, -, rfl⟩ | ⟨n, -, rfl⟩
  · exact (lineKey_isSome_iff x).2 (hL x hx)
  · obtain ⟨w, hw⟩ := lineKey_str binaryName r
    simp [hw]
  · simp [lineKey_chainLine]
  · simp [lineKey_wrappedChainLine]

/-- The only line handed to the weed-outs whose key is a wrapped chain's line is that line:
saved lines with `binary_name` are gone, and a rule's key begins with `-`. -/
theorem eq_of_lineKey_wrappedChainLine {L : List String} {T : IptablesTable} {c y : String}
    (hy : y ∈ newFilter binaryName L T)
    (hk : lineKey y = some (":" ++ binaryName ++ "-" ++ c ++ " - [0:0]")) :
    y = ":" ++ binaryName ++ "-" ++ c ++ " - [0:0]" := by
  rcases mem_newFilter binaryName hy with ⟨-, hb⟩ | ⟨r, -, rfl⟩ | ⟨n, -, rfl⟩ | ⟨n, -, rfl⟩
  · have hin : isIn binaryName (":" ++ binaryName ++ "-" ++ c ++ " - [0:0]") = true :=
      isInfix_iff.2 ⟨[':'], ("-" ++ c ++ " - [0:0]").data, by simp⟩
    rw [isIn_mono hin (infix_of_lineKey hk)] at hb
    cases hb
  · obtain ⟨w, hw⟩ := lineKey_str binaryName r
    rw [hw, Option.some.injEq] at hk
    simpa using congrArg String.data hk
  · rwa [lineKey_chainLine, Option.some.injEq] at hk
  · rwa [lineKey_wrappedChainLine, Option.some.injEq] at hk

end Rewrite

/-! ## What an apply writes -/

section Apply

variable (binaryName : String)

theorem exists_modifyRules_eq_some {L : List String} (T : IptablesTable)
    (hL : ∀ x ∈ L, startswith x "[" = true → ']' ∈ x.data) :
    ∃ out, modifyRules binaryName L T = some out := by
  have hk := newFilter_keys binaryName T hL
  obtain ⟨deduped, hd⟩ := Option.isSome_iff_exists.1 (weedOutDuplicates_isSome []
    (newFilter binaryName L T).reverse fun x hx => hk x (List.mem_reverse.1 hx))
  obtain ⟨r, hr⟩ := Option.isSome_iff_exists.1
    (weedOutRemoves_isSome binaryName T.removeChains T.removeRules deduped fun x hx =>
      hk x (List.mem_reverse.1 ((weedOutDuplicates_sublist _ _ _ hd).subset hx)))
  rw [modifyRules_eq, hd, Option.some_bind, hr, Option.some_bind]
  exact ⟨_, rfl⟩

/-- The rewrite raises no `IndexError` when every line of the saved text that opens with `[`
closes its counts with `]`. -/
theorem modifyRules_isSome {L : List String} (T : IptablesTable)
    (hL : ∀ x ∈ L, startswith x "[" = true → ']' ∈ x.data) :
    (modifyRules binaryName L T).isSome :=
  Option.isSome_iff_exists.2 (exists_modifyRules_eq_some binaryName T hL)

/-- Every line of the new text is one the weed-outs were handed. -/
theorem mem_newFilter_of_modifyRules {L : List String} {T : IptablesTable}
    {out : List String × IptablesTable} (h : modifyRules binaryName L T = some out) {x : String}
    (hx : x ∈ out.1) : x ∈ newFilter binaryName L T := by
  obtain ⟨deduped, kept, qc, q, hd, hk, rfl⟩ := modifyRules_some binaryName h
  exact List.mem_reverse.1 ((weedOutDuplicates_sublist _ _ _ hd).subset
    ((weedOutRemoves_sublist binaryName _ _ _ _ _ _ hk).1.subset (List.mem_reverse.1 hx)))

/-- The lines of the new text close their counts when those of the saved text do: the next
apply's rewrite raises no `IndexError` either. -/
theorem modifyRules_countsClosed {L : List String} {T : IptablesTable}
    {out : List String × IptablesTable} (hL : ∀ x ∈ L, startswith x "[" = true → ']' ∈ x.data)
    (h : modifyRules binaryName L T = some out) :
    ∀ x ∈ out.1, startswith x "[" = true → ']' ∈ x.data := fun x hx =>
  (lineKey_isSome_iff x).1 (newFilter_keys binaryName T hL x (mem_newFilter_of_modifyRules binaryName h hx))

/-- A saved text with a counted rule line, and a table with a wrapped rule: the rewrite
succeeds. -/
theorem modifyRules_isSome_counted_line :
    let L := ["*filter", ":INPUT ACCEPT [0:0]", "[12:720] -A INPUT -j ACCEPT", "COMMIT"]
    (∀ x ∈ L, startswith x "[" = true → ']' ∈ x.data) ∧
      (modifyRules "nova-compute" L
        { chains := ["local"], rules := [⟨"local", "-j DROP", true, false⟩] }).isSome :=
  ⟨by decide, modifyRules_isSome "nova-compute" _ (by decide)⟩


/-- No two lines of the new text have the same key: the text fed to `iptables-restore`
holds each rule once. -/
theorem modifyRules_keys_pairwise {L : List String} {T : IptablesTable}
    {out : List String × IptablesTable} (h : modifyRules binaryName L T = some out) :
    out.1.Pairwise fun x y => lineKey x ≠ lineKey y := by
  obtain ⟨deduped, kept, qc, q, hd, hk, rfl⟩ := modifyRules_some binaryName h
  rw [List.pairwise_reverse]
  exact ((weedOutDuplicates_pairwise _ _ _ hd).2.sublist
    (weedOutRemoves_sublist binaryName _ _ _ _ _ _ hk).1).imp fun h e => h e.symm

/-- The same rule saved twice with different counts: the rewrite keeps the later line only. -/
theorem modifyRules_keys_pairwise_recounted :
    let L := ["*filter", ":INPUT ACCEPT [0:0]", "[0:0] -A INPUT -j ACCEPT",
      "[5:300] -A INPUT -j ACCEPT", "COMMIT"]
    let out := ["*filter", ":INPUT ACCEPT [0:0]", "[5:300] -A INPUT -j ACCEPT", "COMMIT"]
    modifyRules "nova-compute" L {} = some (out, {}) ∧
      out.Pairwise fun x y => lineKey x ≠ lineKey y := by
  intro L out
  have h : modifyRules "nova-compute" L {} = some (out, {}) := by decide
  exact ⟨h, modifyRules_keys_pairwise "nova-compute" h⟩


/-- Every bottom rule of the table is in the new text, up to its counts, unless a rule queued
for removal has its key. -/
theorem modifyRules_keeps_bottom_rule {L : List String} {T : IptablesTable}
    {out : List String × IptablesTable} (h : modifyRules binaryName L T = some out)
    {r : IptablesRule} (hr : r ∈ T.rules) (hb : r.top = false)
    (hq : ∀ q ∈ T.removeRules, some (removeKey binaryName q) ≠ lineKey (r.str binaryName)) :
    ∃ y ∈ out.1, lineKey y = lineKey (r.str binaryName) := by
  obtain ⟨deduped, kept, qc, q, hd, hk, rfl⟩ := modifyRules_some binaryName h
  obtain ⟨w, hw⟩ := lineKey_str binaryName r
  have hmem : r.str binaryName ∈ (newFilter binaryName L T).reverse := by
    simp only [List.mem_reverse, newFilter, mem_insertAt, List.mem_append]
    exact .inr (.inr (.inl (.inr
      (mem_foldl_placeRule_bot binaryName _ _ _ (.inr ⟨r, hr, hb, rfl⟩)))))
  obtain ⟨y, hy, hyk⟩ := weedOutDuplicates_covers [] _ deduped hd _ hmem _ hw
    (List.not_mem_nil _)
  refine ⟨y, List.mem_reverse.2 (weedOutRemoves_keeps binaryName _ _ _ _ _ _ hk y hy ?_ ?_),
    hyk.trans hw.symm⟩
  · intro hs
    obtain ⟨w', hw'⟩ := lineKey_colon_head hs hyk
    exact absurd (List.cons.inj hw').1 (by decide)
  · intro _ q hq'
    rw [hyk, ← hw]
    exact hq q hq'

/-- A wrapped bottom rule and a queued removal of another rule: the removal takes its line,
and the rule's line is written. -/
theorem modifyRules_keeps_bottom_rule_local :
    let r : IptablesRule := ⟨"local", "-j DROP", true, false⟩
    let q : IptablesRule := ⟨"INPUT", "-j REJECT", false, false⟩
    let T : IptablesTable := { chains := ["local"], rules := [r], removeRules := [q] }
    let out := ["*filter", ":INPUT ACCEPT [0:0]", ":nova-compute-local - [0:0]",
      "[0:0] -A nova-compute-local -j DROP", "COMMIT"]
    modifyRules "nova-compute" ["*filter", ":INPUT ACCEPT [0:0]", "[0:0] -A INPUT -j REJECT",
        "COMMIT"] T = some (out, { T with removeRules := [] }) ∧
      r ∈ T.rules ∧ r.top = false ∧
      (∀ q ∈ T.removeRules, some (removeKey "nova-compute" q) ≠ lineKey (r.str "nova-compute")) ∧
      ∃ y ∈ out, lineKey y = lineKey (r.str "nova-compute") := by
  intro r q T out
  have h : modifyRules "nova-compute" ["*filter", ":INPUT ACCEPT [0:0]",
      "[0:0] -A INPUT -j REJECT", "COMMIT"] T = some (out, { T with removeRules := [] }) := by
    decide
  have hq : ∀ q ∈ T.removeRules,
      some (removeKey "nova-compute" q) ≠ lineKey (r.str "nova-compute") := by decide
  exact ⟨h, by decide, rfl, hq, modifyRules_keeps_bottom_rule "nova-compute" h (by decide) rfl hq⟩


/-- The new text declares every wrapped chain of the table whose declaration no queued
chain removal names. -/
theorem modifyRules_declares_chain {L : List String} {T : IptablesTable}
    {out : List String × IptablesTable} (h : modifyRules binaryName L T = some out) {c : String}
    (hc : c ∈ T.chains)
    (hn : chainLineName (":" ++ binaryName ++ "-" ++ c ++ " - [0:0]") ∉ T.removeChains) :
    ":" ++ binaryName ++ "-" ++ c ++ " - [0:0]" ∈ out.1 := by
  obtain ⟨deduped, kept, qc, q, hd, hk, rfl⟩ := modifyRules_some binaryName h
  have hmem : ":" ++ binaryName ++ "-" ++ c ++ " - [0:0]" ∈ (newFilter binaryName L T).reverse := by
    simp only [List.mem_reverse, newFilter, mem_insertAt, List.mem_map]
    exact .inl ⟨c, hc, rfl⟩
  obtain ⟨y, hy, hyk⟩ := weedOutDuplicates_covers [] _ deduped hd _ hmem _
    (lineKey_wrappedChainLine binaryName c) (List.not_mem_nil _)
  obtain rfl := eq_of_lineKey_wrappedChainLine binaryName
    (List.mem_reverse.1 ((weedOutDuplicates_sublist _ _ _ hd).subset hy)) hyk
  refine List.mem_reverse.2 (weedOutRemoves_keeps binaryName _ _ _ _ _ _ hk _ hy (fun _ => hn) ?_)
  simp [startswith, List.isPrefixOf]

/-- A line the rewrite writes for table `T` itself: the text of one of its rules, or the
declaration of one of its chains. -/
def OwnLine (T : IptablesTable) (x : String) : Prop :=
  (∃ r ∈ T.rules, x = r.str binaryName) ∨ (∃ n ∈ T.unwrappedChains, x = ":" ++ n ++ " - [0:0]") ∨
    ∃ n ∈ T.chains, x = ":" ++ binaryName ++ "-" ++ n ++ " - [0:0]"

/-- The rewrite leaves nothing of the component's earlier runs: every line of the new text
that carries `binary_name` is a line of the table. -/
theorem modifyRules_ownLine {L : List String} {T : IptablesTable}
    {out : List String × IptablesTable} (h : modifyRules binaryName L T = some out) {x : String}
    (hx : x ∈ out.1) (hb : isIn binaryName x = true) : OwnLine binaryName T x := by
  rcases mem_newFilter binaryName (mem_newFilter_of_modifyRules binaryName h hx) with ⟨-, hb'⟩ | h
  · rw [hb'] at hb; cases hb
  · exact h

end Apply

/-! ## Runs of table operations -/

/-- What every run of table operations from an empty table keeps: a wrapped rule is in a
declared chain (`add_rule` checks it, and `remove_chain` takes a chain's rules with it), and
the chain sets hold each chain once. -/
structure TableWF (t : IptablesTable) : Prop where
  wrapped : ∀ r ∈ t.rules, r.wrap = true → r.chain ∈ t.chains
  chains : t.chains.Nodup
  unwrappedChains : t.unwrappedChains.Nodup
  removeChains : t.removeChains.Nodup

namespace TableWF

variable {binaryName : String} {t : IptablesTable}

theorem empty : TableWF {} := ⟨by simp, .nil, .nil, .nil⟩

/-- Taking rules out of the table keeps it well formed. -/
theorem of_rules_subset (ht : TableWF t) {rules : List IptablesRule}
    (hr : ∀ r ∈ rules, r ∈ t.rules) : TableWF { t with rules } :=
  ⟨fun r h hw => ht.wrapped r (hr r h) hw, ht.chains, ht.unwrappedChains, ht.removeChains⟩

theorem addChain (ht : TableWF t) (name : String) (wrap : Bool) :
    TableWF (t.addChain name wrap) := by
  cases wrap
  · exact ⟨ht.wrapped, ht.chains, ht.unwrappedChains.insert, ht.removeChains⟩
  · exact ⟨fun r hr hw => List.mem_insert_of_mem (ht.wrapped r hr hw), ht.chains.insert,
      ht.unwrappedChains, ht.removeChains⟩

theorem removeChain (ht : TableWF t) (name : String) (wrap : Bool) :
    TableWF (t.removeChain binaryName name wrap) := by
  unfold IptablesTable.removeChain
  dsimp only
  by_cases hn : name ∈ (if wrap then t.chains else t.unwrappedChains)
  swap
  · rw [if_pos hn]; exact ht
  rw [if_neg (not_not_intro hn)]
  cases wrap
  · exact ⟨fun r hr hw => ht.wrapped r (List.mem_of_mem_filter (List.mem_of_mem_filter hr)) hw,
      ht.chains, ht.unwrappedChains.erase name, ht.removeChains.insert⟩
  · refine ⟨fun r hr hw => ?_, ht.chains.erase name, ht.unwrappedChains, ht.removeChains⟩
    obtain ⟨hr, hc⟩ := List.mem_filter.1 (List.mem_of_mem_filter hr)
    exact ht.chains.mem_erase_iff.2 ⟨of_decide_eq_true hc, ht.wrapped r hr hw⟩

theorem addRule (ht : TableWF t) {chain rule : String} {wrap top : Bool} {t' : IptablesTable}
    (h : t.addRule binaryName chain rule wrap top = .ok t') : TableWF t' := by
  unfold IptablesTable.addRule at h
  by_cases hc : wrap = true ∧ chain ∉ t.chains
  · rw [if_pos hc] at h; cases h
  rw [if_neg hc] at h
  cases h
  refine ⟨fun r hr hw => ?_, ht.chains, ht.unwrappedChains, ht.removeChains⟩
  rcases List.mem_append.1 hr with hr | hr
  · exact ht.wrapped r hr hw
  · obtain rfl := List.mem_singleton.1 hr
    exact not_not.1 fun h => hc ⟨hw, h⟩

theorem removeRule (ht : TableWF t) (chain rule : String) (wrap top : Bool) :
    TableWF (t.removeRule chain rule wrap top) := by
  unfold IptablesTable.removeRule
  by_cases hr : (⟨chain, rule, wrap, top⟩ : IptablesRule) ∈ t.rules
  · rw [if_pos hr]
    exact ⟨fun r hr hw => ht.wrapped r (List.mem_of_mem_erase hr) hw, ht.chains,
      ht.unwrappedChains, ht.removeChains⟩
  · rw [if_neg hr]; exact ht

theorem emptyChain (ht : TableWF t) (chain : String) (wrap : Bool) :
    TableWF (t.emptyChain chain wrap) :=
  ht.of_rules_subset fun r hr => by
    have hr : r ∈ (t.emptyChain chain wrap).rules := hr
    rw [IptablesTable.emptyChain_rules] at hr
    exact (List.mem_filter.1 hr).1

/-- One operation keeps the table well formed. -/
theorem step {s : List String × IptablesTable} (ht : TableWF s.2) {op : TableOp}
    {s' : List String × IptablesTable}
    (h : op.run binaryName s = some s') : TableWF s'.2 := by
  obtain ⟨live, t⟩ := s
  cases op with
  | addChain n w => cases h; exact ht.addChain n w
  | removeChain n w => cases h; exact ht.removeChain n w
  | addRule c r w tp =>
    simp only [TableOp.run] at h
    split at h
    · next t' ht' => cases h; exact ht.addRule ht'
    · cases h
  | removeRule c r w tp => cases h; exact ht.removeRule c r w tp
  | emptyChain c w => cases h; exact ht.emptyChain c w
  | apply =>
    obtain ⟨-, -, -, -, -, -, rfl⟩ := modifyRules_some binaryName h
    exact ⟨ht.wrapped, ht.chains, ht.unwrappedChains, .nil⟩

/-- A run keeps the table well formed. -/
theorem run : ∀ (ops : List TableOp) {s s' : List String × IptablesTable}, TableWF s.2 →
    runOps binaryName ops s = some s' → TableWF s'.2
  | [], _, _, ht, h => by cases h; exact ht
  | _ :: ops, _, _, ht, h => by
    obtain ⟨s₁, h₁, h₂⟩ := Option.bind_eq_some.1 h
    exact run ops (ht.step h₁) h₂

end TableWF

section Runs

variable (binaryName : String)

/-- Over every run of table operations from an empty table, every wrapped rule of the table
is in a declared chain: `remove_chain` of a wrapped chain takes its rules with it. -/
theorem runOps_wrapped_rules_declared {ops : List TableOp} {live live' : List String}
    {t : IptablesTable} (h : runOps binaryName ops (live, {}) = some (live', t))
    {r : IptablesRule} (hr : r ∈ t.rules) (hw : r.wrap = true) : r.chain ∈ t.chains :=
  (TableWF.empty.run ops h).wrapped r hr hw

/-- Removing the wrapped chain `a` takes its rule with it; the rule of `b` stays, in a
declared chain. -/
theorem runOps_wrapped_rules_declared_removed_chain :
    let t : IptablesTable := { rules := [⟨"b", "-j ACCEPT", true, false⟩], chains := ["b"] }
    runOps "nova-compute" [.addChain "a" true, .addRule "a" "-j DROP" true false,
        .addChain "b" true, .addRule "b" "-j ACCEPT" true false, .removeChain "a" true]
        (["*filter", "COMMIT"], {}) = some (["*filter", "COMMIT"], t) ∧
      (⟨"b", "-j ACCEPT", true, false⟩ : IptablesRule) ∈ t.rules ∧ "b" ∈ t.chains := by
  intro t
  have h : runOps "nova-compute" [.addChain "a" true, .addRule "a" "-j DROP" true false,
      .addChain "b" true, .addRule "b" "-j ACCEPT" true false, .removeChain "a" true]
      (["*filter", "COMMIT"], {}) = some (["*filter", "COMMIT"], t) := by decide
  have hr : (⟨"b", "-j ACCEPT", true, false⟩ : IptablesRule) ∈ t.rules := by decide
  exact ⟨h, hr, runOps_wrapped_rules_declared "nova-compute" h hr rfl⟩


/-- After any run of table operations from an empty table, the next apply declares the chain
of every wrapped rule of the table, unless a queued chain removal names that declaration:
`iptables-restore` is never fed a wrapped rule of an undeclared chain. -/
theorem runOps_apply_declares_rule_chains {ops : List TableOp} {live live' : List String}
    {t : IptablesTable} (hrun : runOps binaryName ops (live, {}) = some (live', t))
    {out : List String × IptablesTable} (happ : modifyRules binaryName live' t = some out)
    {r : IptablesRule} (hr : r ∈ t.rules) (hw : r.wrap = true)
    (hn : chainLineName (":" ++ binaryName ++ "-" ++ r.chain ++ " - [0:0]") ∉ t.removeChains) :
    ":" ++ binaryName ++ "-" ++ r.chain ++ " - [0:0]" ∈ out.1 :=
  modifyRules_declares_chain binaryName happ ((TableWF.empty.run ops hrun).wrapped r hr hw) hn

/-- A wrapped rule in `local`, and the unwrapped chain `old` removed: the apply drops `old`'s
declaration and declares `local`. -/
theorem runOps_apply_declares_rule_chains_local :
    let live := ["*filter", ":INPUT ACCEPT [0:0]", ":old - [0:0]", "COMMIT"]
    let r : IptablesRule := ⟨"local", "-j DROP", true, false⟩
    let t : IptablesTable := { rules := [r], chains := ["local"], removeChains := ["old"] }
    let out := ["*filter", ":INPUT ACCEPT [0:0]", ":nova-compute-local - [0:0]",
      "[0:0] -A nova-compute-local -j DROP", "COMMIT"]
    runOps "nova-compute" [.addChain "local" true, .addRule "local" "-j DROP" true false,
        .addChain "old" false, .removeChain "old" false] (live, {}) = some (live, t) ∧
      modifyRules "nova-compute" live t = some (out, { t with removeChains := [] }) ∧
      r ∈ t.rules ∧ r.wrap = true ∧
      chainLineName (":" ++ "nova-compute" ++ "-" ++ r.chain ++ " - [0:0]") ∉ t.removeChains ∧
      ":" ++ "nova-compute" ++ "-" ++ r.chain ++ " - [0:0]" ∈ out := by
  intro live r t out
  have hrun : runOps "nova-compute" [.addChain "local" true,
      .addRule "local" "-j DROP" true false, .addChain "old" false, .removeChain "old" false]
      (live, {}) = some (live, t) := by decide
  have happ : modifyRules "nova-compute" live t = some (out, { t with removeChains := [] }) := by
    decide
  have hn : chainLineName (":" ++ "nova-compute" ++ "-" ++ r.chain ++ " - [0:0]") ∉
      t.removeChains := by decide
  exact ⟨hrun, happ, by decide, rfl, hn,
    runOps_apply_declares_rule_chains "nova-compute" hrun happ (by decide) rfl hn⟩


end Runs

end FolsomCloud.Network
