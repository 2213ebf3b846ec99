import Mathlib.Data.List.Basic

set_option autoImplicit false

/-!
# Network: the iptables rule manager (`nova/network/linux_net.py`)

`IptablesTable` is a component's in-memory copy of its rules and chains; `apply()` runs
`iptables-save`, rewrites the saved text with `IptablesManager._modify_rules`, and feeds
the result to `iptables-restore`.  The rewrite drops every line that contains
`binary_name`, inserts the table's chains and rules, weeds out duplicates (the last
occurrence wins) and the lines of the table's remove lists, and then flushes those lists.
The flush of `remove_rules` removes from the list it iterates over, so it stops halfway:
of `n` queued rules that no line matched, `⌊n/2⌋` stay queued
(`modifyRules_flush_keeps_half`).

Wrapped rules and chains carry `binary_name` in their text, so a rewrite drops and
re-creates them; unwrapped ones do not, so a rewrite keeps what the kernel holds and
relies on the remove lists to take lines away.  `empty_chain` does not fill those lists:
an unwrapped rule it empties from the table stays in the kernel
(`emptyChain_removeRules`, `runOps_keeps_emptied_unwrapped_rule`).

The rewrite only ever drops lines (`mem_modifyRules`), and a top rule's pass drops every
line that contains the rule's key as a substring, keeping the last in the rule's place.
Lines of other components can be lost that way (`modifyRules_drops_foreign_line`), and
so can the top rule's own line, once a later rule's text contains its key
(`modifyRules_drops_top_rule_line`).  `remove_chain` matches chains by name alone and
jumps by substring (`mem_removeChain_rules`); the jump of an unwrapped rule that the kernel
holds stays after its chain is removed (`modifyRules_keeps_jump_to_removed_chain`).

`add_rule` stores a rule with its `$chain` targets wrapped, while `remove_rule` looks for
the text it is given: removing a rule as it was added restores the rules exactly when
wrapping leaves its text as it was, which a `$chain` target does not
(`addRule_removeRule_rules_iff`).

Python strings are `String`; the few `str` methods the code uses (`in`, `startswith`,
`strip`, `split`) are given over the character list, by structural recursion, so that
the model evaluates.  A Python `set` is a duplicate-free list, iterated in list order
(the code never depends on a set's order).
-/

namespace FolsomCloud.Network

/-! ## Python string primitives -/

namespace PyStr

/-- `needle in hay`, on character lists. -/
def isInfix (needle : List Char) : List Char → Bool
  | [] => needle.isEmpty
  | c :: cs => needle.isPrefixOf (c :: cs) || isInfix needle cs

/-- `needle in hay`. -/
def isIn (needle hay : String) : Bool := isInfix needle.data hay.data

/-- `s.startswith(p)`. -/
def startswith (s p : String) : Bool := p.data.isPrefixOf s.data

/-- The characters `str.strip()` removes (`string.whitespace` of Python 2). -/
def isSpace (c : Char) : Bool :=
  c = ' ' || c = '\t' || c = '\n' || c = '\r' || c = '\x0b' || c = '\x0c'

/-- `s.strip()`. -/
def strip (s : String) : String :=
  ⟨((s.data.dropWhile isSpace).reverse.dropWhile isSpace).reverse⟩

/-- `needle in hay` holds when `hay` ends with `needle`. -/
theorem isInfix_append_self (needle : List Char) :
    ∀ p : List Char, isInfix needle (p ++ needle) = true
  | [] => by cases needle <;> simp [isInfix]
  | _ :: p => by simp [isInfix, isInfix_append_self needle p]

/-- Stripping the right end of `p ++ u` leaves `p` alone when `u` has a non-space. -/
theorem rstrip_append {p u : List Char} {c : Char} (hc : c ∈ u) (hs : isSpace c = false) :
    ((p ++ u).reverse.dropWhile isSpace).reverse = p ++ (u.reverse.dropWhile isSpace).reverse := by
  have hne : (u.reverse.dropWhile isSpace).isEmpty = false := by
    simpa [List.dropWhile_eq_nil_iff] using ⟨c, hc, hs⟩
  rw [List.reverse_append, List.dropWhile_append, hne, if_neg Bool.false_ne_true,
    List.reverse_append, List.reverse_reverse]

/-- `s.split(sep, 1)[1]`: the text after the first `sep`; `none` is the `IndexError`
raised when `sep` does not occur. -/
def afterFirst (sep : Char) (s : String) : Option String :=
  match s.data.dropWhile (· ≠ sep) with
  | [] => none
  | _ :: rest => some ⟨rest⟩

/-- `s.split(sep)[0]` for a non-empty separator: the text before the first `sep`. -/
def beforeInfix (sep : List Char) : List Char → List Char
  | [] => []
  | c :: cs => if sep.isPrefixOf (c :: cs) then [] else c :: beforeInfix sep cs

/-- The bytes of the character with code point `n` in UTF-8. -/
def utf8Bytes (n : Nat) : List Nat :=
  if n < 0x80 then [n]
  else if n < 0x800 then [0xC0 + n / 64, 0x80 + n % 64]
  else if n < 0x10000 then [0xE0 + n / 4096, 0x80 + n / 64 % 64, 0x80 + n % 64]
  else [0xF0 + n / 262144, 0x80 + n / 4096 % 64, 0x80 + n / 64 % 64, 0x80 + n % 64]

/-- Byte `b` in the `repr` of a `str` quoted with the character of code `q`: the quote and
the backslash escaped, tab, newline and carriage return by name, other bytes outside
printable ASCII as `\xhh`. -/
def reprByte (q b : Nat) : String :=
  if b = q ∨ b = 92 then String.mk [Char.ofNat 92, Char.ofNat b]
  else if b = 9 then "\\t" else if b = 10 then "\\n" else if b = 13 then "\\r"
  else if b < 32 ∨ 127 ≤ b then
    "\\x" ++ String.mk [Nat.digitChar (b / 16), Nat.digitChar (b % 16)]
  else String.mk [Char.ofNat b]

/-- `%r` of a `str`, Python 2's `repr`: quoted with a single quote, or with a double quote when
the text holds a single quote and no double quote. -/
def pyRepr (s : String) : String :=
  let q := if s.data.any (·.toNat = 39) && !s.data.any (·.toNat = 34) then 34 else 39
  String.mk [Char.ofNat q] ++
    String.join (s.data.flatMap fun c => (utf8Bytes c.toNat).map (reprByte q)) ++
    String.mk [Char.ofNat q]

end PyStr

open PyStr

/-! ## Rules and tables -/

/-- `IptablesRule`: equality is that of all four fields (`__eq__`). -/
structure IptablesRule where
  chain : String
  rule : String
  wrap : Bool := true
  top : Bool := false
  deriving DecidableEq, Repr

/-- `IptablesRule.__str__` in a process whose `binary_name` is `binaryName`. -/
def IptablesRule.str (binaryName : String) (r : IptablesRule) : String :=
  let chain := if r.wrap then binaryName ++ "-" ++ r.chain else r.chain
  "[0:0] -A " ++ chain ++ " " ++ r.rule

/-- `IptablesTable`: the rules in order, the rules and chains to remove at the next
apply, and the wrapped and unwrapped chains. -/
structure IptablesTable where
  rules : List IptablesRule := []
  removeRules : List IptablesRule := []
  chains : List String := []
  unwrappedChains : List String := []
  removeChains : List String := []
  deriving DecidableEq, Repr

namespace IptablesTable

variable (binaryName : String)

/-- `IptablesTable.add_chain`. -/
def addChain (t : IptablesTable) (name : String) (wrap : Bool) : IptablesTable :=
  if wrap then { t with chains := t.chains.insert name }
  else { t with unwrappedChains := t.unwrappedChains.insert name }

/-- `IptablesTable.remove_chain`: a missing chain is only logged.  The removal cascades
to the chain's rules and to the rules that jump to it; for an unwrapped chain both go
to `remove_rules`. -/
def removeChain (t : IptablesTable) (name : String) (wrap : Bool) : IptablesTable :=
  let chainSet := if wrap then t.chains else t.unwrappedChains
  if name ∉ chainSet then t
  else
    let t := if wrap then { t with chains := t.chains.erase name }
      else { t with removeChains := t.removeChains.insert name,
                    unwrappedChains := t.unwrappedChains.erase name }
    let removeRules :=
      if wrap then t.removeRules else t.removeRules ++ t.rules.filter (·.chain = name)
    let rules := t.rules.filter (·.chain ≠ name)
    let jumpSnippet := if wrap then "-j " ++ binaryName ++ "-" ++ name else "-j " ++ name
    let removeRules :=
      if wrap then removeRules else removeRules ++ rules.filter (isIn jumpSnippet ·.rule)
    { t with rules := rules.filter (!isIn jumpSnippet ·.rule), removeRules }

/-- `remove_chain` of a chain in the set keeps a rule exactly when no chain of that name
holds it, whatever the rule's wrap flag, and the jump snippet is nowhere in its text: a
jump to a longer chain name that begins with the name goes too. -/
theorem mem_removeChain_rules (t : IptablesTable) (name : String) (wrap : Bool)
    (h : name ∈ (if wrap then t.chains else t.unwrappedChains)) (r : IptablesRule) :
    r ∈ (t.removeChain binaryName name wrap).rules ↔
      r ∈ t.rules ∧ r.chain ≠ name ∧
        isIn (if wrap then "-j " ++ binaryName ++ "-" ++ name else "-j " ++ name) r.rule = false := by
  cases wrap <;> simp_all [removeChain, List.mem_filter, and_assoc, and_comm]

/-- Removing the unwrapped chain `inst-1` takes with it the rule of the wrapped chain
`inst-1` and the jump to `inst-12`. -/
theorem removeChain_inst1_drops_inst12_jump :
    let t : IptablesTable :=
      { rules := [⟨"inst-1", "-j ACCEPT", true, false⟩, ⟨"local", "-j inst-12", false, false⟩],
        chains := ["inst-1"], unwrappedChains := ["inst-1", "inst-12"] }
    (t.removeChain "nova-compute" "inst-1" false).rules = [] := by
  intro t
  refine List.eq_nil_iff_forall_not_mem.2 fun r hr => ?_
  obtain ⟨hm, hc, hj⟩ := (mem_removeChain_rules "nova-compute" t "inst-1" false (by decide) r).1 hr
  simp only [t, List.mem_cons, List.mem_singleton, List.not_mem_nil, or_false] at hm
  rcases hm with rfl | rfl
  · exact hc rfl
  · exact absurd hj (by decide)

/-- `IptablesTable._wrap_target_chain`. -/
def wrapTargetChain (s : String) : String :=
  if startswith s "$" then binaryName ++ "-" ++ s.drop 1 else s

/-- `IptablesTable.add_rule`; the error is the message of the `ValueError` for an unknown
wrapped chain, `'Unknown chain: %r' % chain`. -/
def addRule (t : IptablesTable) (chain rule : String) (wrap top : Bool) :
    Except String IptablesTable :=
  if wrap ∧ chain ∉ t.chains then .error ("Unknown chain: " ++ PyStr.pyRepr chain)
  else
    let rule := if isIn "$" rule then
        " ".intercalate ((rule.splitOn " ").map (wrapTargetChain binaryName)) else rule
    .ok { t with rules := t.rules ++ [⟨chain, rule, wrap, top⟩] }

/-- `IptablesTable.remove_rule`: the first equal rule goes, and an unwrapped one is
queued in `remove_rules`; a missing rule is only logged. -/
def removeRule (t : IptablesTable) (chain rule : String) (wrap top : Bool) :
    IptablesTable :=
  let r : IptablesRule := ⟨chain, rule, wrap, top⟩
  if r ∈ t.rules then
    { t with rules := t.rules.erase r,
             removeRules := if wrap then t.removeRules else t.removeRules ++ [r] }
  else t

/-- Appending a rule absent from `l` and then erasing `a` gives `l` back exactly when `a`
is that rule; the `else` branch is `remove_rule` missing `a`. -/
theorem erase_append_singleton_iff {l : List IptablesRule} {a b : IptablesRule} (hb : b ∉ l) :
    (if a ∈ l ++ [b] then (l ++ [b]).erase a else l ++ [b]) = l ↔ a = b := by
  by_cases ha : a ∈ l ++ [b]
  · rw [if_pos ha]
    refine ⟨fun h => by_contra fun hne => hb ?_, fun h => ?_⟩
    · exact h ▸ (List.mem_erase_of_ne (Ne.symm hne)).2 (List.mem_append_right l (List.mem_singleton_self b))
    · rw [h, List.erase_append_right _ hb, List.erase_cons_head, List.append_nil]
  · rw [if_neg ha]
    exact ⟨fun h => absurd (congrArg List.length h) (by simp), fun h => absurd (by simp [h]) ha⟩

/-- `add_rule` followed by `remove_rule` with the same arguments restores the rules
exactly when `add_rule` stored the rule text unchanged: `add_rule` rewrites every `$chain`
word of a rule with a `$` in it, while `remove_rule` looks for the text as given. -/
theorem addRule_removeRule_rules_iff (t : IptablesTable) (c r : String) (wrap top : Bool)
    (hc : wrap = true → c ∈ t.chains)
    (hn : (⟨c, if isIn "$" r then
        " ".intercalate ((r.splitOn " ").map (wrapTargetChain binaryName)) else r, wrap, top⟩ :
        IptablesRule) ∉ t.rules) :
    ∃ t', t.addRule binaryName c r wrap top = .ok t' ∧
      ((t'.removeRule c r wrap top).rules = t.rules ↔
        (if isIn "$" r then " ".intercalate ((r.splitOn " ").map (wrapTargetChain binaryName))
          else r) = r) := by
  refine ⟨_, by rw [addRule, if_neg fun h => h.2 (hc h.1)], ?_⟩
  rw [removeRule, apply_ite IptablesTable.rules, erase_append_singleton_iff hn,
    IptablesRule.mk.injEq]
  simp only [true_and, and_true, eq_comm]

unseal String.splitOnAux in
/-- The rule `-j $local` of the wrapped chain `local` is stored as
`-j nova-compute-local`, so `remove_rule("local", "-j $local")` finds nothing to remove
and the added rule stays. -/
theorem addRule_removeRule_keeps_dollar_rule :
    let t : IptablesTable := { chains := ["local"] }
    (true = true → "local" ∈ t.chains) ∧
    (⟨"local", "-j nova-compute-local", true, false⟩ : IptablesRule) ∉ t.rules ∧
    ∃ t', t.addRule "nova-compute" "local" "-j $local" true false = .ok t' ∧
      (t'.removeRule "local" "-j $local" true false).rules ≠ t.rules := by
  obtain ⟨t', ht, hiff⟩ := addRule_removeRule_rules_iff "nova-compute" { chains := ["local"] }
    "local" "-j $local" true false (fun _ => List.mem_singleton_self _) (List.not_mem_nil _)
  exact ⟨fun _ => List.mem_singleton_self _, List.not_mem_nil _, t', ht,
    fun h => absurd (hiff.1 h) (by decide)⟩

/-- `IptablesTable.empty_chain`: each rule of the chain is removed from `rules`
(`list.remove`, one by one); nothing is queued for removal. -/
def emptyChain (t : IptablesTable) (chain : String) (wrap : Bool) : IptablesTable :=
  let chainedRules := t.rules.filter fun r => r.chain = chain ∧ r.wrap = wrap
  { t with rules := chainedRules.foldl List.erase t.rules }

@[simp] theorem emptyChain_removeRules (t : IptablesTable) (chain : String) (wrap : Bool) :
    (t.emptyChain chain wrap).removeRules = t.removeRules := rfl

/-- Erasing, one by one, elements that all differ from the head keeps the head. -/
theorem foldl_erase_cons {a : IptablesRule} {xs : List IptablesRule} (l : List IptablesRule)
    (h : ∀ x ∈ xs, x ≠ a) : xs.foldl List.erase (a :: l) = a :: xs.foldl List.erase l := by
  induction xs generalizing l with
  | nil => rfl
  | cons x xs ih =>
    have hax : a ≠ x := (h x (.head _)).symm
    simp only [List.foldl_cons, List.erase_cons, beq_iff_eq, hax, if_false]
    exact ih _ fun y hy => h y (.tail _ hy)

/-- The `list.remove` loop of `empty_chain` removes exactly the chain's rules. -/
theorem foldl_erase_filter (p : IptablesRule → Bool) (l : List IptablesRule) :
    (l.filter p).foldl List.erase l = l.filter (!p ·) := by
  induction l with
  | nil => rfl
  | cons a l ih =>
    by_cases ha : p a
    · simp [List.filter_cons, ha, ih]
    · have hne : ∀ x ∈ l.filter p, x ≠ a := fun x hx hxa => by
        simp_all [List.mem_filter]
      simp [List.filter_cons, ha, foldl_erase_cons l hne, ih]

theorem emptyChain_rules (t : IptablesTable) (chain : String) (wrap : Bool) :
    (t.emptyChain chain wrap).rules = t.rules.filter fun r => !(r.chain = chain ∧ r.wrap = wrap) :=
  foldl_erase_filter _ t.rules

end IptablesTable

/-! ## `IptablesManager._modify_rules` -/

section ModifyRules

variable (binaryName : String)

/-- The `rules_index` loop: the index of the first line after the first run of chain
lines (`:`); when no line ends the run it is the last index the loop reached (0 on an
empty list). -/
def rulesIndexFrom (seenChains : Bool) (rulesIndex i : Nat) : List String → Nat
  | [] => rulesIndex
  | rule :: rest =>
    if !seenChains then rulesIndexFrom (startswith rule ":") i (i + 1) rest
    else if !startswith rule ":" then i
    else rulesIndexFrom true i (i + 1) rest

/-- `new_filter[i:i] = xs`. -/
def insertAt (i : Nat) (xs l : List String) : List String := l.take i ++ xs ++ l.drop i

/-- The key of a rule line `[p:b] -A ...` once its counts are cut off:
`rule_str.split(']', 1)[1]`, which cannot fail on `str(rule)` (`afterFirst_str`). -/
def dropCounts (s : String) : String :=
  if startswith s "[" then (afterFirst ']' s).getD s else s

theorem afterFirst_str (r : IptablesRule) :
    afterFirst ']' (r.str binaryName) = some ⟨(r.str binaryName).data.drop 5⟩ := by
  simp [IptablesRule.str, afterFirst]

/-- One turn of the loop over `rules`: a top rule removes from `new_filter` every line
that contains it, and takes the last of them, if any, in place of `str(rule)`; other
rules go to `bot_rules`. -/
def placeRule (s : List String × List String × List String) (rule : IptablesRule) :
    List String × List String × List String :=
  let (newFilter, ourRules, botRules) := s
  let ruleStr := rule.str binaryName
  if rule.top then
    let key := strip (dropCounts ruleStr)
    let dupFilter := newFilter.filter fun s => isIn key (strip s)
    let newFilter := newFilter.filter fun s => !isIn key (strip s)
    (newFilter, ourRules ++ [dupFilter.getLast?.getD ruleStr], botRules)
  else (newFilter, ourRules, botRules ++ [ruleStr])

/-- `_weed_out_duplicates` filtering a list with the set `seen_lines`: the first line
with a given key stays.  `none` is the `IndexError` of a line `[...` without `]`. -/
def weedOutDuplicates (seenLines : List String) : List String → Option (List String)
  | [] => some []
  | line :: rest => do
    let key ← if startswith line "[" then afterFirst ']' line else some line
    let key := strip key
    if key ∈ seenLines then weedOutDuplicates seenLines rest
    else (line :: ·) <$> weedOutDuplicates (key :: seenLines) rest

/-- The chain name of a chain line `:name - [0:0]`: `line.split(':')[1]`, then
`.split('- [')[0]`, stripped. -/
def chainLineName (line : String) : String :=
  strip ⟨beforeInfix "- [".data (((afterFirst ':' line).getD "").data.takeWhile (· ≠ ':'))⟩

/-- The key `_weed_out_removes` compares a queued rule with: `str(rule)` without its
first word. -/
def removeKey (r : IptablesRule) : String :=
  strip ⟨((r.str binaryName).data.dropWhile (· ≠ ' ')).drop 1⟩

/-- `_weed_out_removes` filtering a list: a chain line whose name is queued in
`remove_chains`, or a rule line equal to a rule queued in `remove_rules`, is dropped,
and the matching entry leaves the queue (`remove`).  Returns the kept lines and what is
left of the two queues. -/
def weedOutRemoves (removeChains : List String) (removeRules : List IptablesRule) :
    List String → Option (List String × List String × List IptablesRule)
  | [] => some ([], removeChains, removeRules)
  | line :: rest =>
    if startswith line ":" then
      let name := chainLineName line
      if name ∈ removeChains then weedOutRemoves (removeChains.erase name) removeRules rest
      else (fun (k, q) => (line :: k, q)) <$> weedOutRemoves removeChains removeRules rest
    else if startswith line "[" then do
      let key ← afterFirst ']' line
      let key := strip key
      match removeRules.find? (removeKey binaryName · = key) with
      | some r => weedOutRemoves removeChains (removeRules.erase r) rest
      | none => (fun (k, q) => (line :: k, q)) <$> weedOutRemoves removeChains removeRules rest
    else (fun (k, q) => (line :: k, q)) <$> weedOutRemoves removeChains removeRules rest

/-- `for rule in remove_rules: remove_rules.remove(rule)`: the loop reads the list by
index while the list shrinks, so it stops halfway.  `fuel` bounds the turns; the list
length is enough, since every turn removes one element. -/
def flushRemoveRules : (fuel i : Nat) → List IptablesRule → List IptablesRule
  | 0, _, l => l
  | fuel + 1, i, l =>
    match l[i]? with
    | none => l
    | some r => flushRemoveRules fuel (i + 1) (l.erase r)

/-- `IptablesManager._modify_rules(current_lines, table)`: the new saved text, and the
table as the method leaves it (its remove lists flushed).  `none` is an `IndexError`. -/
def modifyRules (currentLines : List String) (table : IptablesTable) :
    Option (List String × IptablesTable) := do
  let newFilter := currentLines.filter fun line => !isIn binaryName line
  let rulesIndex := rulesIndexFrom false 0 0 newFilter
  let (newFilter, ourRules, botRules) :=
    table.rules.foldl (placeRule binaryName) (newFilter, [], [])
  let newFilter := insertAt rulesIndex (ourRules ++ botRules) newFilter
  let newFilter := insertAt rulesIndex
    (table.unwrappedChains.map fun name => ":" ++ name ++ " - [0:0]") newFilter
  let newFilter := insertAt rulesIndex
    (table.chains.map fun name => ":" ++ binaryName ++ "-" ++ name ++ " - [0:0]") newFilter
  let deduped ← weedOutDuplicates [] newFilter.reverse
  let (kept, _, removeRules) ←
    weedOutRemoves binaryName table.removeChains table.removeRules deduped
  pure (kept.reverse,
    { table with removeChains := [],
                 removeRules := flushRemoveRules removeRules.length 0 removeRules })

/-! ## What the rewrite keeps of the saved text -/

theorem weedOutDuplicates_sublist :
    ∀ (seen l l' : List String), weedOutDuplicates seen l = some l' → l'.Sublist l
  | _, [], l', h => by cases h; exact .slnil
  | seen, line :: rest, l', h => by
    unfold weedOutDuplicates at h
    obtain ⟨key, h⟩ : ∃ key, (if strip key ∈ seen then weedOutDuplicates seen rest
        else (line :: ·) <$> weedOutDuplicates (strip key :: seen) rest) = some l' := by
      split at h
      · exact (Option.bind_eq_some.1 h).imp fun _ h => h.2
      · exact ⟨line, h⟩
    split_ifs at h
    · exact (weedOutDuplicates_sublist _ rest l' h).cons line
    · obtain ⟨k, hk, rfl⟩ := Option.map_eq_some'.1 h
      exact (weedOutDuplicates_sublist _ rest k hk).cons₂ line

/-- The weed-out keeps lines of the text in order, and only takes entries off the rule
queue. -/
theorem weedOutRemoves_sublist :
    ∀ (rc : List String) (rr : List IptablesRule) (l k qc : List String) (q : List IptablesRule),
      weedOutRemoves binaryName rc rr l = some (k, qc, q) → k.Sublist l ∧ q.Sublist rr
  | _, _, [], k, qc, q, h => by cases h; exact ⟨.slnil, .refl _⟩
  | rc, rr, line :: rest, k, qc, q, h => by
    have keep : ∀ rc, (fun (k, q) => (line :: k, q)) <$> weedOutRemoves binaryName rc rr rest =
        some (k, qc, q) → k.Sublist (line :: rest) ∧ q.Sublist rr := fun rc h => by
      obtain ⟨⟨k', qc', q'⟩, hk, he⟩ := Option.map_eq_some'.1 h
      cases he
      exact (weedOutRemoves_sublist _ _ rest k' _ _ hk).imp_left (·.cons₂ line)
    unfold weedOutRemoves at h
    dsimp only at h
    split_ifs at h
    · exact (weedOutRemoves_sublist _ _ rest k qc q h).imp_left (·.cons line)
    · exact keep _ h
    · obtain ⟨key, -, h⟩ := Option.bind_eq_some.1 h
      split at h
      · exact (weedOutRemoves_sublist _ _ rest k qc q h).imp (·.cons line)
          (·.trans (List.erase_sublist _ _))
      · exact keep _ h
    · exact keep _ h

theorem mem_insertAt {i : Nat} {xs l : List String} {x : String} :
    x ∈ insertAt i xs l ↔ x ∈ xs ∨ x ∈ l := by
  conv_rhs => rw [← List.take_append_drop i l]
  simp only [insertAt, List.mem_append]
  tauto

/-- A line of the output of `_modify_rules` is a line the rule loop left in `new_filter`,
`our_rules` or `bot_rules`, or one of the chain lines it inserts. -/
theorem mem_modifyRules {L : List String} {T : IptablesTable} {out : List String × IptablesTable}
    {x : String} (h : modifyRules binaryName L T = some out) (hx : x ∈ out.1) :
    let s := T.rules.foldl (placeRule binaryName) (L.filter fun line => !isIn binaryName line, [], [])
    x ∈ s.1 ∨ x ∈ s.2.1 ∨ x ∈ s.2.2 ∨ startswith x ":" = true := by
  unfold modifyRules at h
  obtain ⟨deduped, hd, h⟩ := Option.bind_eq_some.1 h
  obtain ⟨⟨kept, qc, q⟩, hk, h⟩ := Option.bind_eq_some.1 h
  cases h
  have hx := (weedOutDuplicates_sublist _ _ _ hd).subset
    ((weedOutRemoves_sublist binaryName _ _ _ _ _ _ hk).1.subset (List.mem_reverse.1 hx))
  rw [List.mem_reverse, mem_insertAt, mem_insertAt, mem_insertAt, List.mem_append] at hx
  rcases hx with hx | hx | (hx | hx) | hx
  · obtain ⟨n, -, rfl⟩ := List.mem_map.1 hx
    simp [startswith]
  · obtain ⟨n, -, rfl⟩ := List.mem_map.1 hx
    simp [startswith]
  · exact .inr (.inl hx)
  · exact .inr (.inr (.inl hx))
  · exact .inl hx


/-- Line `F` is in none of the three lists of the rule loop: `new_filter`, `our_rules`,
`bot_rules`. -/
def Omits (F : String) (s : List String × List String × List String) : Prop :=
  F ∉ s.1 ∧ F ∉ s.2.1 ∧ F ∉ s.2.2

/-- Bottom rules only append their text to `bot_rules`. -/
theorem foldl_placeRule_bottom :
    ∀ (rs : List IptablesRule) (s : List String × List String × List String),
      (∀ r ∈ rs, r.top = false) →
      rs.foldl (placeRule binaryName) s = (s.1, s.2.1, s.2.2 ++ rs.map (·.str binaryName))
  | [], _, _ => by simp
  | r :: rs, ⟨nf, our, bot⟩, h => by
    rw [List.foldl_cons, foldl_placeRule_bottom rs _ fun r' hr' => h r' (.tail _ hr')]
    simp [placeRule, h r (.head _)]

/-- A turn of the loop adds no line that is absent, unless the rule's own text is it. -/
theorem placeRule_omits {F : String} {s : List String × List String × List String}
    {r : IptablesRule} (hs : Omits F s) (hr : r.str binaryName ≠ F) :
    Omits F (placeRule binaryName s r) := by
  obtain ⟨nf, our, bot⟩ := s
  obtain ⟨h1, h2, h3⟩ := hs
  by_cases ht : r.top = true
  · simp only [placeRule, ht, if_true]
    refine ⟨fun h => h1 (List.mem_filter.1 h).1, ?_, h3⟩
    simp only [List.mem_append, List.mem_singleton, not_or]
    refine ⟨h2, ?_⟩
    cases hd : (nf.filter _).getLast? with
    | none => exact hr.symm
    | some d =>
      rintro rfl
      exact h1 (List.mem_filter.1 (List.mem_of_getLast?_eq_some hd)).1
  · simp only [placeRule, ht, if_false]
    exact ⟨h1, h2, by simpa using ⟨h3, hr.symm⟩⟩

theorem foldl_placeRule_omits {F : String} :
    ∀ (rs : List IptablesRule) (s : List String × List String × List String),
      Omits F s → (∀ r ∈ rs, r.str binaryName ≠ F) → Omits F (rs.foldl (placeRule binaryName) s)
  | [], _, hs, _ => hs
  | _ :: rs, _, hs, h =>
    foldl_placeRule_omits rs _ (placeRule_omits binaryName hs (h _ (.head _)))
      fun r hr => h r (.tail _ hr)

/-- A top rule whose key `F` and a later line `G` both contain removes `F`, and takes a
line after it in its place. -/
theorem placeRule_omits_covered {F G : String} {A B our bot : List String} {r : IptablesRule}
    (htop : r.top = true) (hkF : isIn (strip (dropCounts (r.str binaryName))) (strip F) = true)
    (hkG : isIn (strip (dropCounts (r.str binaryName))) (strip G) = true)
    (hG : G ∈ B) (hF : F ∉ B) (hour : F ∉ our) (hbot : F ∉ bot) :
    Omits F (placeRule binaryName (A ++ B, our, bot) r) := by
  simp only [placeRule, htop, if_true, List.filter_append, List.getLast?_append]
  refine ⟨fun h => by simp [hkF] at h, ?_, hbot⟩
  rcases hd : (B.filter fun s => isIn (strip (dropCounts (r.str binaryName))) (strip s)).getLast?
    with _ | d
  · exact absurd (List.getLast?_eq_none_iff.1 hd) (List.ne_nil_of_mem (List.mem_filter.2 ⟨hG, hkG⟩))
  · simp only [Option.or_some, Option.getD_some, List.mem_append, List.mem_singleton, not_or]
    exact ⟨hour, fun h => hF (h ▸ (List.mem_filter.1 (List.mem_of_getLast?_eq_some hd)).1)⟩

/-- The rewrite loses every line `F` that the key of the first top rule `r` covers, when a
later line `G`, not of this process, is covered too and `F` does not come again: the rule
takes the last covered line in its place, and nothing else writes `F` back unless it is
the text of another rule. -/
theorem modifyRules_omits_covered_line {L : List String} {T : IptablesTable}
    {out : List String × IptablesTable} {preL rest : List String} {F G : String}
    {preR postR : List IptablesRule} {r : IptablesRule}
    (hL : L = preL ++ F :: rest) (hF : F ∉ rest) (hG : G ∈ rest) (hbG : isIn binaryName G = false)
    (hT : T.rules = preR ++ r :: postR) (hpre : ∀ r' ∈ preR, r'.top = false) (htop : r.top = true)
    (hkF : isIn (strip (dropCounts (r.str binaryName))) (strip F) = true)
    (hkG : isIn (strip (dropCounts (r.str binaryName))) (strip G) = true)
    (hstr : ∀ r' ∈ preR ++ postR, r'.str binaryName ≠ F) (hc : startswith F ":" = false)
    (h : modifyRules binaryName L T = some out) : F ∉ out.1 := by
  have hs : Omits F (T.rules.foldl (placeRule binaryName)
      (L.filter fun line => !isIn binaryName line, [], [])) := by
    rw [hT, List.foldl_append, foldl_placeRule_bottom binaryName preR _ hpre, List.foldl_cons]
    refine foldl_placeRule_omits binaryName postR _ ?_
      fun r' hr' => hstr r' (List.mem_append_right _ hr')
    rw [hL, show preL ++ F :: rest = (preL ++ [F]) ++ rest by simp, List.filter_append]
    exact placeRule_omits_covered binaryName htop hkF hkG (List.mem_filter.2 ⟨hG, by simp [hbG]⟩)
      (fun h => hF (List.mem_filter.1 h).1) (List.not_mem_nil _)
      (by simpa using fun r' hr' => hstr r' (List.mem_append_left _ hr'))
  intro hx
  rcases mem_modifyRules binaryName h hx with h1 | h2 | h3 | h4
  · exact hs.1 h1
  · exact hs.2.1 h2
  · exact hs.2.2 h3
  · simp [hc] at h4

/-- The key of a rule's text is in the text: a top rule's filter always takes its own
line. -/
theorem isIn_key_self (r : IptablesRule) :
    isIn (strip (dropCounts (r.str binaryName))) (strip (r.str binaryName)) = true := by
  obtain ⟨v, hstr⟩ : ∃ v, (r.str binaryName).data = ['[', '0', ':', '0', ']', ' '] ++ '-' :: v :=
    ⟨'A' :: ' ' :: ((if r.wrap then binaryName ++ "-" ++ r.chain else r.chain).data ++
      ' ' :: r.rule.data), by simp [IptablesRule.str]⟩
  have hkey : dropCounts (r.str binaryName) = ⟨' ' :: '-' :: v⟩ := by
    simp [dropCounts, afterFirst_str, startswith, hstr]
  simp only [isIn, strip, hkey, hstr]
  rw [show List.dropWhile isSpace (' ' :: '-' :: v) = '-' :: v from rfl,
    show List.dropWhile isSpace (['[', '0', ':', '0', ']', ' '] ++ '-' :: v) =
      ['[', '0', ':', '0', ']', ' '] ++ '-' :: v from rfl,
    rstrip_append (List.mem_cons_self '-' v) rfl]
  exact isInfix_append_self _ _

/-- Lines of other components are not safe from the rewrite.  A line `F` of the saved
text that is not the text of any rule of the table, that does not come again, and that
contains the key of the table's first top rule, is lost when a later line of another
component contains that key too. -/
theorem modifyRules_drops_foreign_line {L : List String} {T : IptablesTable}
    {out : List String × IptablesTable} {preL rest : List String} {F G : String}
    {preR postR : List IptablesRule} {r : IptablesRule}
    (hL : L = preL ++ F :: rest) (hF : F ∉ rest) (hG : G ∈ rest) (hbG : isIn binaryName G = false)
    (hT : T.rules = preR ++ r :: postR) (hpre : ∀ r' ∈ preR, r'.top = false) (htop : r.top = true)
    (hkF : isIn (strip (dropCounts (r.str binaryName))) (strip F) = true)
    (hkG : isIn (strip (dropCounts (r.str binaryName))) (strip G) = true)
    (hstr : ∀ r' ∈ T.rules, r'.str binaryName ≠ F) (hc : startswith F ":" = false)
    (h : modifyRules binaryName L T = some out) : F ∉ out.1 :=
  modifyRules_omits_covered_line binaryName hL hF hG hbG hT hpre htop hkF hkG
    (fun r' hr' => hstr r' (by rw [hT]; simp only [List.mem_append, List.mem_cons] at hr' ⊢; tauto))
    hc h

/-- Two `REJECT` rules of another component in `INPUT`, and an unwrapped top rule whose
text is a prefix of both: the first of the two is gone from the new text. -/
theorem modifyRules_drops_tcp_reset_line :
    let T : IptablesTable := { rules := [⟨"INPUT", "-p tcp -j REJECT", false, true⟩] }
    let F := "[0:0] -A INPUT -p tcp -j REJECT --reject-with tcp-reset"
    let G := "[0:0] -A INPUT -p tcp -j REJECT --reject-with icmp-port-unreachable"
    let out := ["*filter", ":INPUT ACCEPT [0:0]", G, "COMMIT"]
    modifyRules "nova-compute" ["*filter", ":INPUT ACCEPT [0:0]", F, G, "COMMIT"] T =
      some (out, T) ∧ F ∉ out :=
  have h : modifyRules "nova-compute" ["*filter", ":INPUT ACCEPT [0:0]",
      "[0:0] -A INPUT -p tcp -j REJECT --reject-with tcp-reset",
      "[0:0] -A INPUT -p tcp -j REJECT --reject-with icmp-port-unreachable", "COMMIT"]
      { rules := [⟨"INPUT", "-p tcp -j REJECT", false, true⟩] } =
      some (["*filter", ":INPUT ACCEPT [0:0]",
        "[0:0] -A INPUT -p tcp -j REJECT --reject-with icmp-port-unreachable", "COMMIT"],
        { rules := [⟨"INPUT", "-p tcp -j REJECT", false, true⟩] }) := by decide
  ⟨h, @modifyRules_drops_foreign_line "nova-compute" _ _ _ ["*filter", ":INPUT ACCEPT [0:0]"] _ _ _
    [] [] _ rfl (by decide) (List.mem_cons_self _ _) (by decide) rfl (fun _ h => nomatch h) rfl
    (by decide) (by decide) (by decide) (by decide) h⟩

/-- A top rule can lose its own line: when a later line, such as the text of a later rule
of the table, contains the rule's key, the rule takes that line in its place, and its own
line is gone from the new text. -/
theorem modifyRules_drops_top_rule_line {L : List String} {T : IptablesTable}
    {out : List String × IptablesTable} {preL rest : List String} {G : String}
    {preR postR : List IptablesRule} {r : IptablesRule}
    (hL : L = preL ++ r.str binaryName :: rest) (hF : r.str binaryName ∉ rest) (hG : G ∈ rest)
    (hbG : isIn binaryName G = false)
    (hT : T.rules = preR ++ r :: postR) (hpre : ∀ r' ∈ preR, r'.top = false) (htop : r.top = true)
    (hkG : isIn (strip (dropCounts (r.str binaryName))) (strip G) = true)
    (hstr : ∀ r' ∈ preR ++ postR, r'.str binaryName ≠ r.str binaryName)
    (h : modifyRules binaryName L T = some out) : r.str binaryName ∉ out.1 :=
  modifyRules_omits_covered_line binaryName hL hF hG hbG hT hpre htop (isIn_key_self binaryName r)
    hkG hstr (by simp [IptablesRule.str, startswith, List.isPrefixOf]) h

/-- `INPUT` with an unwrapped top rule `-p tcp -j REJECT` and a bottom rule that extends
it.  The first apply writes both lines; the second, with the table unchanged, loses the
top rule's line, so a second apply is not a fixpoint. -/
theorem modifyRules_second_apply_drops_top_rule :
    let r₁ : IptablesRule := ⟨"INPUT", "-p tcp -j REJECT", false, true⟩
    let r₂ : IptablesRule := ⟨"INPUT", "-p tcp -j REJECT --reject-with tcp-reset", false, false⟩
    let T : IptablesTable := { rules := [r₁, r₂] }
    let out₁ := ["*filter", ":INPUT ACCEPT [0:0]", r₁.str "nova-compute",
      r₂.str "nova-compute", "COMMIT"]
    let out₂ := ["*filter", ":INPUT ACCEPT [0:0]", r₂.str "nova-compute", "COMMIT"]
    modifyRules "nova-compute" ["*filter", ":INPUT ACCEPT [0:0]", "COMMIT"] T = some (out₁, T) ∧
    modifyRules "nova-compute" out₁ T = some (out₂, T) ∧ r₁.str "nova-compute" ∉ out₂ := by
  intro r₁ r₂ T out₁ out₂
  have h₂ : modifyRules "nova-compute" out₁ T = some (out₂, T) := by decide
  exact ⟨by decide, h₂, @modifyRules_drops_top_rule_line "nova-compute" _ _ _
    ["*filter", ":INPUT ACCEPT [0:0]"] _ _ [] [r₂] r₁ rfl (by decide) (List.mem_cons_self _ _)
    (by decide) rfl (fun _ h => nomatch h) rfl (by decide) (by decide) h₂⟩

/-- `remove_chain` of the unwrapped chain `custom` queues its declaration for removal,
but a rule of another component that jumps to `custom` is no rule of the table and stays.
The saved text declares `custom` before the jump; the new text keeps the jump and drops
the declaration, so `iptables-restore` is fed a jump to an undeclared chain. -/
theorem modifyRules_keeps_jump_to_removed_chain :
    (modifyRules "nova-compute"
        ["*filter", ":INPUT ACCEPT [0:0]", ":custom - [0:0]", "[0:0] -A INPUT -j custom",
          "COMMIT"]
        (({ unwrappedChains := ["custom"] } : IptablesTable).removeChain "nova-compute"
          "custom" false)).map Prod.fst =
      some ["*filter", ":INPUT ACCEPT [0:0]", "[0:0] -A INPUT -j custom", "COMMIT"] := by
  decide

/-! ## What the rewrite leaves in the remove lists -/

/-- What the flush leaves is a sublist of the queue. -/
theorem flushRemoveRules_sublist :
    ∀ (fuel i : Nat) (l : List IptablesRule), (flushRemoveRules fuel i l).Sublist l
  | 0, _, l => .refl l
  | fuel + 1, i, l => by
    unfold flushRemoveRules
    split
    · exact .refl l
    · exact (flushRemoveRules_sublist fuel (i + 1) _).trans (List.erase_sublist _ _)

/-- A turn removes the entry at index `i`, which is in the list, and moves on to `i + 1`:
the distance from the index to the end shrinks by two, so a walk from `i` stops with
`⌊(n + i) / 2⌋` of the `n` entries left, given the `⌈(n - i) / 2⌉` turns it takes. -/
theorem length_flushRemoveRules :
    ∀ (fuel i : Nat) (l : List IptablesRule), l.length ≤ i + 2 * fuel →
      (flushRemoveRules fuel i l).length = min l.length ((l.length + i) / 2)
  | 0, _, _, h => by rw [flushRemoveRules]; omega
  | fuel + 1, i, l, h => by
    unfold flushRemoveRules
    split
    · next hr => have := List.getElem?_eq_none_iff.1 hr; omega
    · next r hr =>
      obtain ⟨hi, rfl⟩ := List.getElem?_eq_some_iff.1 hr
      have hlen := List.length_erase_of_mem (List.getElem_mem hi)
      rw [length_flushRemoveRules fuel (i + 1) _ (by omega), hlen]
      omega

/-- `for rule in remove_rules: remove_rules.remove(rule)` leaves `⌊n/2⌋` of `n` rules. -/
theorem length_flushRemoveRules_zero (l : List IptablesRule) :
    (flushRemoveRules l.length 0 l).length = l.length / 2 := by
  rw [length_flushRemoveRules _ _ _ (by omega)]
  omega

/-- The `new_filter` that `_modify_rules` hands to the weed-outs: the saved lines without
`binary_name` as the rule loop leaves them, with the rules and then the chains inserted at
`rules_index`. -/
def newFilter (currentLines : List String) (table : IptablesTable) : List String :=
  let newFilter := currentLines.filter fun line => !isIn binaryName line
  let rulesIndex := rulesIndexFrom false 0 0 newFilter
  let s := table.rules.foldl (placeRule binaryName) (newFilter, [], [])
  let newFilter := insertAt rulesIndex (s.2.1 ++ s.2.2) s.1
  let newFilter := insertAt rulesIndex
    (table.unwrappedChains.map fun name => ":" ++ name ++ " - [0:0]") newFilter
  insertAt rulesIndex
    (table.chains.map fun name => ":" ++ binaryName ++ "-" ++ name ++ " - [0:0]") newFilter

/-- `_modify_rules` is the two weed-outs of `newFilter`, reversed back, and the flush. -/
theorem modifyRules_eq (L : List String) (T : IptablesTable) :
    modifyRules binaryName L T =
      (weedOutDuplicates [] (newFilter binaryName L T).reverse).bind fun deduped =>
        (weedOutRemoves binaryName T.removeChains T.removeRules deduped).bind fun r =>
          some (r.1.reverse,
            { T with
              removeChains := [],
              removeRules := flushRemoveRules r.2.2.length 0 r.2.2 }) := rfl

/-- A successful rewrite is the two weed-outs of `newFilter`, reversed back; of the table it
changes only the remove lists. -/
theorem modifyRules_some {L : List String} {T : IptablesTable} {out : List String × IptablesTable}
    (h : modifyRules binaryName L T = some out) :
    ∃ deduped kept qc q, weedOutDuplicates [] (newFilter binaryName L T).reverse = some deduped ∧
      weedOutRemoves binaryName T.removeChains T.removeRules deduped = some (kept, qc, q) ∧
      out = (kept.reverse,
        { T with
          removeChains := [],
          removeRules := flushRemoveRules q.length 0 q }) := by
  rw [modifyRules_eq] at h
  obtain ⟨deduped, hd, h⟩ := Option.bind_eq_some.1 h
  obtain ⟨⟨kept, qc, q⟩, hk, h⟩ := Option.bind_eq_some.1 h
  exact ⟨deduped, kept, qc, q, hd, hk, (Option.some.inj h).symm⟩

/-- After a rewrite `remove_chains` is empty, but the flush of `remove_rules` takes off only
every other rule of `q`, the queue the weed-out of the rewritten text leaves (the rules no line
matched): `⌊n/2⌋` of those `n` stay queued. -/
theorem modifyRules_flush_keeps_half {L out : List String} {T T' : IptablesTable}
    (h : modifyRules binaryName L T = some (out, T')) :
    T'.removeChains = [] ∧
      ∃ deduped kept qc q, weedOutDuplicates [] (newFilter binaryName L T).reverse = some deduped ∧
        weedOutRemoves binaryName T.removeChains T.removeRules deduped = some (kept, qc, q) ∧
        q.Sublist T.removeRules ∧ T'.removeRules.Sublist q ∧
        T'.removeRules.length = q.length / 2 := by
  obtain ⟨deduped, kept, qc, q, hd, hk, h⟩ := modifyRules_some binaryName h
  cases h
  exact ⟨rfl, deduped, kept, qc, q, hd, hk, (weedOutRemoves_sublist binaryName _ _ _ _ _ _ hk).2,
    flushRemoveRules_sublist _ _ q, length_flushRemoveRules_zero q⟩

/-- Two unwrapped `INPUT` rules queued for removal that no line of the saved text matches,
and a queued chain: the rewrite empties `remove_chains`, and the weed-out leaves both rules
queued; the flush removes the first, steps past the end of the shortened list and stops,
leaving the second queued. -/
theorem modifyRules_keeps_second_remove_rule :
    let r₁ : IptablesRule := ⟨"INPUT", "-j DROP", false, false⟩
    let r₂ : IptablesRule := ⟨"INPUT", "-j REJECT", false, false⟩
    let L := ["*filter", ":INPUT ACCEPT [0:0]", "COMMIT"]
    let T : IptablesTable := { removeRules := [r₁, r₂], removeChains := ["custom"] }
    let T' : IptablesTable := { removeRules := [r₂] }
    modifyRules "nova-compute" L T = some (L, T') ∧
      T'.removeChains = [] ∧
      ∃ deduped kept qc q,
        weedOutDuplicates [] (newFilter "nova-compute" L T).reverse = some deduped ∧
        weedOutRemoves "nova-compute" T.removeChains T.removeRules deduped = some (kept, qc, q) ∧
        q.Sublist T.removeRules ∧ T'.removeRules.Sublist q ∧
        T'.removeRules.length = q.length / 2 := by
  intro r₁ r₂ L T T'
  have h : modifyRules "nova-compute" L T = some (L, T') := by decide
  exact ⟨h, modifyRules_flush_keeps_half "nova-compute" h⟩

end ModifyRules

/-! ## Runs of table operations and applies -/

/-- What a component does to its table, and `apply()` of the table to the live text. -/
inductive TableOp where
  | addChain (name : String) (wrap : Bool)
  | removeChain (name : String) (wrap : Bool)
  | addRule (chain rule : String) (wrap top : Bool)
  | removeRule (chain rule : String) (wrap top : Bool)
  | emptyChain (chain : String) (wrap : Bool)
  | apply
  deriving DecidableEq, Repr

/-- One operation on the live text and the table; `none` is an exception, which ends
the run. -/
def TableOp.run (binaryName : String) :
    TableOp → List String × IptablesTable → Option (List String × IptablesTable)
  | .addChain n w, (live, t) => some (live, t.addChain n w)
  | .removeChain n w, (live, t) => some (live, t.removeChain binaryName n w)
  | .addRule c r w tp, (live, t) =>
    match t.addRule binaryName c r w tp with
    | .ok t => some (live, t)
    | .error _ => none
  | .removeRule c r w tp, (live, t) => some (live, t.removeRule c r w tp)
  | .emptyChain c w, (live, t) => some (live, t.emptyChain c w)
  | .apply, (live, t) => modifyRules binaryName live t

/-- A run of operations from a live text and a table. -/
def runOps (binaryName : String) :
    List TableOp → List String × IptablesTable → Option (List String × IptablesTable)
  | [], s => some s
  | op :: ops, s => (op.run binaryName s).bind (runOps binaryName ops)

/-- `empty_chain` on an unwrapped chain leaves the chain's rules in the kernel: a rule
applied once, then emptied from the table, is still a line of the live text after the
next apply, though the table no longer holds it. -/
theorem runOps_keeps_emptied_unwrapped_rule :
    runOps "nova-compute" [.addRule "FORWARD" "-j ACCEPT" false false, .apply,
        .emptyChain "FORWARD" false, .apply]
      (["*filter", ":FORWARD ACCEPT [0:0]", "COMMIT"], {}) =
    some (["*filter", ":FORWARD ACCEPT [0:0]", "[0:0] -A FORWARD -j ACCEPT", "COMMIT"], {}) := by
  decide

end FolsomCloud.Network
