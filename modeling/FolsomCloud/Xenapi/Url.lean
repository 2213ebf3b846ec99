import Mathlib.Data.List.Infix

set_option autoImplicit false

/-!
# Xenapi: the address swap in the join URL

`_create_subordinate_info` hands the pool's main the URL of the new host's xenapi: the
configured `xenapi_connection_url`, with its address replaced by the host's own by
`swap_xapi_host(url, host_addr)`.  The function takes the network location `urlparse`
finds, keeps its `:port`, and replaces the location's text by `host_addr:port` with
`str.replace`, which rewrites every occurrence in the URL, not only the location.

When the location's text occurs only at its own place, the swapped URL splits into the
same scheme, port, path, query and fragment, with `host_addr` for the host
(`swapXapiHost_urlsplit`).  When it recurs, that text changes too: with host `a`,
`http://h/h` becomes `attp://a/a`, a URL with another scheme and another path
(`swapXapiHost_rewrites_path`).

Strings are lists of characters.  `urlparse` is Python 2.7's standard library; its
`netloc` is `urlsplit`'s, which is modelled here.
-/

namespace FolsomCloud.Xenapi

/-! ## What the code calls -/

/-- The part of `s` before the first character `stop` accepts, and the rest from there:
the slices around `s.find(c)`. -/
def breakAt (stop : Char → Bool) : List Char → List Char × List Char
  | [] => ([], [])
  | c :: s => if stop c then ([], c :: s) else (c :: (breakAt stop s).1, (breakAt stop s).2)

/-- `s.split(d, 1)` when `d in s`, and `(s, '')` otherwise, as `urlsplit` uses it. -/
def splitOnce (d : Char) (s : List Char) : List Char × List Char :=
  match breakAt (· = d) s with
  | (before, _ :: after) => (before, after)
  | (before, []) => (before, [])

/-- `s.partition(sep)`. -/
def partition (sep : Char) (s : List Char) : List Char × List Char × List Char :=
  match breakAt (· = sep) s with
  | (before, c :: after) => (before, [c], after)
  | (before, []) => (before, [], [])

/-- `s.replace(old, new)` from a position `skip` characters into a replaced occurrence:
occurrences are replaced left to right and do not overlap. -/
def replaceFrom (old new : List Char) : Nat → List Char → List Char
  | _, [] => []
  | k + 1, _ :: s => replaceFrom old new k s
  | 0, c :: s =>
    if old.isPrefixOf (c :: s) then new ++ replaceFrom old new (old.length - 1) s
    else c :: replaceFrom old new 0 s

/-- `s.replace(old, new)`; an empty `old` matches around every character. -/
def pyReplace (s old new : List Char) : List Char :=
  if old = [] then s.foldr (fun c acc => new ++ c :: acc) new else replaceFrom old new 0 s

/-- `scheme_chars` of `urlparse`. -/
def schemeChar (c : Char) : Bool := c.isAlphanum || c = '+' || c = '-' || c = '.'

/-- The characters that end a network location in `_splitnetloc`. -/
def netlocDelim (c : Char) : Bool := c = '/' || c = '?' || c = '#'

/-- `urlparse.SplitResult`. -/
structure SplitResult where
  scheme : List Char
  netloc : List Char
  path : List Char
  query : List Char
  fragment : List Char
  deriving DecidableEq, Repr

/-- The scheme step of `urlsplit`: before the first `:`, `http` is taken as it is; another
run of scheme characters is taken, lowercased, unless what follows the `:` is a port
number. -/
def splitScheme (url : List Char) : List Char × List Char :=
  match breakAt (· = ':') url with
  | (s, _ :: rest) =>
    if s = "http".toList then (s, rest)
    else if s ≠ [] ∧ s.all schemeChar ∧ (rest = [] ∨ rest.any fun c => !c.isDigit) then
      (s.map Char.toLower, rest)
    else ([], url)
  | (_, []) => ([], url)

/-- `urlparse.urlsplit(url)`; `none` when it raises `ValueError` on an unbalanced `[` or
`]` in the network location. -/
def urlsplit (url : List Char) : Option SplitResult :=
  let (scheme, url) := splitScheme url
  let (netloc, url) := match url with
    | '/' :: '/' :: s => breakAt netlocDelim s
    | _ => ([], url)
  if ('[' ∈ netloc ∧ ']' ∉ netloc) ∨ (']' ∈ netloc ∧ '[' ∉ netloc) then none
  else
    let (url, fragment) := splitOnce '#' url
    let (path, query) := splitOnce '?' url
    some ⟨scheme, netloc, path, query, fragment⟩

/-- `swap_xapi_host(url, host_addr)`; `none` when `urlparse` raises. -/
def swapXapiHost (url hostAddr : List Char) : Option (List Char) := do
  let r ← urlsplit url
  let (_, sep, port) := partition ':' r.netloc
  pure (pyReplace url r.netloc (hostAddr ++ sep ++ port))

/-! ## Splitting and replacing -/

/-- `breakAt` stops at the first character it accepts and at nothing before. -/
theorem breakAt_append (stop : Char → Bool) {l r : List Char} (hl : ∀ c ∈ l, stop c = false)
    (hr : r.head?.all stop) : breakAt stop (l ++ r) = (l, r) := by
  induction l with
  | nil =>
    cases r with
    | nil => rfl
    | cons c r => simpa [breakAt] using hr
  | cons c l ih =>
    rw [List.cons_append, breakAt, if_neg (by simp [hl c (List.mem_cons_self c l)]),
      ih fun x hx => hl x (List.mem_cons_of_mem c hx)]

theorem splitOnce_append {d : Char} {l : List Char} (hl : d ∉ l) (r : List Char) :
    splitOnce d (l ++ d :: r) = (l, r) := by
  rw [splitOnce, breakAt_append _ (fun c hc => by simpa using ne_of_mem_of_not_mem hc hl)
    (by simp)]

theorem splitOnce_of_not_mem {d : Char} {l : List Char} (hl : d ∉ l) : splitOnce d l = (l, []) := by
  have h := @breakAt_append (· = d) l [] (fun c hc => by simpa using ne_of_mem_of_not_mem hc hl)
    rfl
  rw [List.append_nil] at h
  rw [splitOnce, h]

/-- The characters of a replaced occurrence are skipped. -/
theorem replaceFrom_skip (old new : List Char) :
    ∀ (l q : List Char), replaceFrom old new l.length (l ++ q) = replaceFrom old new 0 q
  | [], _ => rfl
  | _ :: l, q => replaceFrom_skip old new l q

/-- With no occurrence, `replace` changes nothing. -/
theorem replaceFrom_of_not_infix (old new : List Char) :
    ∀ {q : List Char}, ¬ old <:+: q → replaceFrom old new 0 q = q
  | [], _ => rfl
  | c :: q, h => by
    rw [replaceFrom, if_neg fun hp => h (List.isPrefixOf_iff_prefix.1 hp).isInfix,
      replaceFrom_of_not_infix old new fun hi => h (List.infix_cons hi)]

/-- An occurrence of `old` where the scan stands is replaced, and the scan goes on after it. -/
theorem replaceFrom_occurrence {old : List Char} (new q : List Char) (hne : old ≠ []) :
    replaceFrom old new 0 (old ++ q) = new ++ replaceFrom old new 0 q := by
  obtain ⟨c, l, rfl⟩ := List.exists_cons_of_ne_nil hne
  have hp : (c :: l).isPrefixOf (c :: (l ++ q)) = true :=
    List.isPrefixOf_iff_prefix.2 (List.prefix_append (c :: l) q)
  rw [List.cons_append, replaceFrom, if_pos hp, List.length_cons, Nat.add_sub_cancel,
    replaceFrom_skip]

/-- A prefix in which no occurrence of `old` starts is copied. -/
theorem replaceFrom_append {old new : List Char} :
    ∀ {p : List Char} (q : List Char), (∀ k < p.length, ¬ old <+: (p ++ q).drop k) →
      replaceFrom old new 0 (p ++ q) = p ++ replaceFrom old new 0 q
  | [], _, _ => rfl
  | c :: p, q, h => by
    have hp : ¬ old.isPrefixOf (c :: (p ++ q)) = true := fun hp =>
      h 0 (Nat.succ_pos _) (List.isPrefixOf_iff_prefix.1 hp)
    rw [List.cons_append, replaceFrom, if_neg hp,
      replaceFrom_append q fun k hk => h (k + 1) (Nat.succ_lt_succ hk), List.cons_append]

/-- A text without `/` that does not occur in `p` does not start `p ++ '/' :: x`. -/
theorem not_prefix_append_slash {old p : List Char} (x : List Char) (hs : '/' ∉ old)
    (hi : ¬ old <:+: p) : ¬ old <+: p ++ '/' :: x := by
  intro h
  rcases List.prefix_or_prefix_of_prefix h (List.prefix_append p ('/' :: x)) with h₁ | ⟨t, rfl⟩
  · exact hi h₁.isInfix
  · cases t with
    | nil => exact hi (by simp)
    | cons c t =>
      obtain ⟨rfl, -⟩ := List.cons_prefix_cons.1 ((List.prefix_append_right_inj p).1 h)
      exact hs (by simp)

/-! ## URLs of the form `scheme://host[:port]/path[?query][#fragment]` -/

/-- The characters a host name or address may hold: none that ends or splits a network
location, and no `@` of user info. -/
def hostChar (c : Char) : Bool :=
  !(netlocDelim c || c = ':' || c = '[' || c = ']' || c = '@')

/-- A URL `scheme://host[:port]/path[?query][#fragment]` without user info, by its parts. -/
structure UrlForm where
  scheme : List Char
  host : List Char
  port : Option (List Char)
  path : List Char
  query : Option (List Char)
  fragment : Option (List Char)
  scheme_ne : scheme ≠ []
  scheme_chars : ∀ c ∈ scheme, schemeChar c = true
  host_ne : host ≠ []
  host_chars : ∀ c ∈ host, hostChar c = true
  port_digits : ∀ p ∈ port, ∀ c ∈ p, c.isDigit = true
  path_head : path.head?.all (· = '/')
  path_chars : ∀ c ∈ path, c ≠ '?' ∧ c ≠ '#'
  query_chars : ∀ q ∈ query, '#' ∉ q

namespace UrlForm

variable (u : UrlForm)

/-- `host[:port]`. -/
def netloc : List Char := u.host ++ u.port.elim [] (':' :: ·)

/-- `/path[?query][#fragment]`. -/
def tail : List Char :=
  u.path ++ u.query.elim [] ('?' :: ·) ++ u.fragment.elim [] ('#' :: ·)

/-- The URL's text. -/
def toChars : List Char := u.scheme ++ ':' :: '/' :: '/' :: (u.netloc ++ u.tail)

/-- The split the URL is written from. -/
def split : SplitResult :=
  ⟨u.scheme.map Char.toLower, u.netloc, u.path, u.query.getD [], u.fragment.getD []⟩

/-- The same URL with host `a`. -/
def withHost (a : List Char) (ha : a ≠ []) (hc : ∀ c ∈ a, hostChar c = true) : UrlForm :=
  { u with host := a, host_ne := ha, host_chars := hc }

/-- The characters of a network location `host[:port]`: no delimiter and no bracket. -/
theorem netloc_chars : ∀ c ∈ u.netloc, netlocDelim c = false ∧ c ≠ '[' ∧ c ≠ ']' := by
  intro c hc
  rcases List.mem_append.1 hc with hc | hc
  · have := u.host_chars c hc
    simp only [hostChar, Bool.not_eq_true', Bool.or_eq_false_iff, decide_eq_false_iff_not] at this
    exact ⟨this.1.1.1.1, this.1.1.2, this.1.2⟩
  · cases hp : u.port with
    | none => simp [hp] at hc
    | some p =>
      rw [hp] at hc
      rcases List.mem_cons.1 hc with rfl | hc
      · decide
      · have hd := u.port_digits p (by simp [hp]) c hc
        simp only [netlocDelim, Bool.or_eq_false_iff, decide_eq_false_iff_not]
        refine ⟨⟨⟨?_, ?_⟩, ?_⟩, ?_, ?_⟩ <;> rintro rfl <;> exact absurd hd (by decide)

theorem ne_colon_of_schemeChar {c : Char} (h : schemeChar c = true) : c ≠ ':' := by
  rintro rfl
  exact absurd h (by decide)

theorem splitScheme_toChars :
    splitScheme u.toChars = (u.scheme.map Char.toLower, '/' :: '/' :: (u.netloc ++ u.tail)) := by
  have hb : breakAt (· = ':') u.toChars = (u.scheme, ':' :: '/' :: '/' :: (u.netloc ++ u.tail)) :=
    breakAt_append _ (fun c hc => decide_eq_false (ne_colon_of_schemeChar (u.scheme_chars c hc)))
      (by simp)
  rw [splitScheme, hb]
  dsimp only
  by_cases hh : u.scheme = "http".toList
  · rw [if_pos hh, hh, show "http".toList.map Char.toLower = "http".toList by decide]
  · rw [if_neg hh, if_pos ⟨u.scheme_ne, List.all_eq_true.2 u.scheme_chars, .inr (by simp)⟩]

/-- What follows the network location starts with `/`, `?` or `#`, if anything. -/
theorem tail_head : u.tail.head?.all netlocDelim := by
  have hp := u.path_head
  rcases u with ⟨_, _, _, _ | ⟨c, _⟩, _ | _, _ | _, _⟩ <;>
    simp_all [tail, netlocDelim]

theorem hash_not_mem : '#' ∉ u.path ++ u.query.elim [] ('?' :: ·) := by
  intro h
  rcases List.mem_append.1 h with h | h
  · exact (u.path_chars _ h).2 rfl
  · cases hq : u.query with
    | none => simp [hq] at h
    | some q =>
      rw [hq] at h
      exact u.query_chars q (by simp [hq]) (List.mem_of_ne_of_mem (by decide) h)

theorem splitOnce_hash :
    splitOnce '#' u.tail = (u.path ++ u.query.elim [] ('?' :: ·), u.fragment.getD []) := by
  rw [tail]
  cases u.fragment with
  | none => simpa using splitOnce_of_not_mem u.hash_not_mem
  | some f => exact splitOnce_append u.hash_not_mem f

theorem splitOnce_query :
    splitOnce '?' (u.path ++ u.query.elim [] ('?' :: ·)) = (u.path, u.query.getD []) := by
  have hp : '?' ∉ u.path := fun h => (u.path_chars _ h).1 rfl
  cases u.query with
  | none => simpa using splitOnce_of_not_mem hp
  | some q => exact splitOnce_append hp q

/-- `urlsplit` reads a URL of this form back into its parts, the scheme lowercased. -/
theorem urlsplit_toChars : urlsplit u.toChars = some u.split := by
  have hn : breakAt netlocDelim (u.netloc ++ u.tail) = (u.netloc, u.tail) :=
    breakAt_append _ (fun c hc => (u.netloc_chars c hc).1) u.tail_head
  have hl : '[' ∉ u.netloc := fun h => (u.netloc_chars _ h).2.1 rfl
  have hr : ']' ∉ u.netloc := fun h => (u.netloc_chars _ h).2.2 rfl
  simp only [urlsplit, splitScheme_toChars, hn, hl, hr, false_and, and_false, or_false,
    if_false, splitOnce_hash, splitOnce_query, split]

/-- `partition(':')` of `host[:port]`: the host, the `:` if there is a port, and the port. -/
theorem partition_netloc :
    partition ':' u.netloc = (u.host, u.port.elim [] fun _ => [':'], u.port.getD []) := by
  have hb : breakAt (· = ':') u.netloc = (u.host, u.port.elim [] (':' :: ·)) := by
    refine breakAt_append _ (fun c hc => ?_) (by cases u.port <;> simp)
    have := u.host_chars c hc
    simp only [hostChar, Bool.not_eq_true', Bool.or_eq_false_iff] at this
    exact this.1.1.1.2
  rw [partition, hb]
  cases u.port <;> rfl

theorem slash_not_mem_netloc : '/' ∉ u.netloc := fun h => by
  simpa [netlocDelim] using (u.netloc_chars _ h).1

/-- No occurrence of the network location starts in `scheme://` when it does not occur in
`scheme:`: it has no `/`. -/
theorem netloc_not_prefix_drop (hs : ¬ u.netloc <:+: u.scheme ++ [':']) :
    ∀ k < (u.scheme ++ [':', '/', '/']).length,
      ¬ u.netloc <+: ((u.scheme ++ [':', '/', '/']) ++ (u.netloc ++ u.tail)).drop k := by
  intro k hk
  have hsplit : (u.scheme ++ [':', '/', '/']) ++ (u.netloc ++ u.tail) =
      (u.scheme ++ [':']) ++ '/' :: '/' :: (u.netloc ++ u.tail) := by simp
  have hk' : k - (u.scheme ++ [':']).length < 2 := by simp at hk ⊢; omega
  obtain ⟨x, hx⟩ : ∃ x, ('/' :: '/' :: (u.netloc ++ u.tail)).drop
      (k - (u.scheme ++ [':']).length) = '/' :: x := by
    rcases (show k - (u.scheme ++ [':']).length = 0 ∨ k - (u.scheme ++ [':']).length = 1 by
      omega) with h | h <;> rw [h] <;> exact ⟨_, rfl⟩
  rw [hsplit, List.drop_append_eq_append_drop, hx]
  exact not_prefix_append_slash x u.slash_not_mem_netloc
    fun hi => hs (hi.trans (List.drop_suffix k _).isInfix)

/-- When the network location's text occurs nowhere else in the URL, `swap_xapi_host`
changes only the host. -/
theorem swapXapiHost_toChars (a : List Char) (ha : a ≠ []) (hc : ∀ c ∈ a, hostChar c = true)
    (hs : ¬ u.netloc <:+: u.scheme ++ [':']) (ht : ¬ u.netloc <:+: u.tail) :
    swapXapiHost u.toChars a = some (u.withHost a ha hc).toChars := by
  have hne : u.netloc ≠ [] := by simp [netloc, u.host_ne]
  have hnew : a ++ (u.port.elim [] fun _ => [':']) ++ u.port.getD [] =
      (u.withHost a ha hc).netloc := by
    cases hp : u.port <;> simp [netloc, withHost, hp]
  have hurl : u.toChars = (u.scheme ++ [':', '/', '/']) ++ (u.netloc ++ u.tail) := by
    simp [toChars]
  simp only [swapXapiHost, urlsplit_toChars, Option.pure_def, Option.bind_eq_bind,
    Option.some_bind]
  rw [show u.split.netloc = u.netloc from rfl, partition_netloc]
  dsimp only
  rw [hnew, pyReplace, if_neg hne, hurl, replaceFrom_append _ (u.netloc_not_prefix_drop hs),
    replaceFrom_occurrence _ _ hne, replaceFrom_of_not_infix _ _ ht]
  simp [toChars, withHost, tail]

/-- The claim's reading of `swap_xapi_host`, where the network location's text occurs only
at its place: the swapped URL splits into the same scheme, path, query and fragment, and
its location into host `a` and the same port. -/
theorem swapXapiHost_urlsplit (a : List Char) (ha : a ≠ []) (hc : ∀ c ∈ a, hostChar c = true)
    (hs : ¬ u.netloc <:+: u.scheme ++ [':']) (ht : ¬ u.netloc <:+: u.tail) :
    ∃ r r', urlsplit u.toChars = some r ∧ (swapXapiHost u.toChars a).bind urlsplit = some r' ∧
      r'.scheme = r.scheme ∧ r'.path = r.path ∧ r'.query = r.query ∧
      r'.fragment = r.fragment ∧ partition ':' r'.netloc = (a, (partition ':' r.netloc).2) := by
  refine ⟨u.split, (u.withHost a ha hc).split, u.urlsplit_toChars, ?_, rfl, rfl, rfl, rfl, ?_⟩
  · rw [u.swapXapiHost_toChars a ha hc hs ht, Option.some_bind, urlsplit_toChars]
  · rw [split, split, partition_netloc, partition_netloc]
    rfl

end UrlForm

/-- `http://h/h`, a URL of the claim's form, with host `a`: `replace` rewrites every `h`,
so the swapped URL has scheme `attp` and path `/a`. -/
theorem swapXapiHost_rewrites_path :
    let u : UrlForm :=
      { scheme := "http".toList, host := "h".toList, port := none, path := "/h".toList,
        query := none, fragment := none, scheme_ne := by decide, scheme_chars := by decide,
        host_ne := by decide, host_chars := by decide, port_digits := by simp,
        path_head := by decide, path_chars := by decide, query_chars := by simp }
    u.toChars = "http://h/h".toList ∧
      urlsplit u.toChars = some ⟨"http".toList, "h".toList, "/h".toList, [], []⟩ ∧
      swapXapiHost u.toChars "a".toList = some "attp://a/a".toList ∧
      (swapXapiHost u.toChars "a".toList).bind urlsplit =
        some ⟨"attp".toList, "a".toList, "/a".toList, [], []⟩ := by
  decide

end FolsomCloud.Xenapi
