/-
# SiteAuditor.Python.UrlParse — `urllib.parse.urlparse`, as CPython computes it

`urlsplit` cleans the URL (`lstrip` of C0 controls and space, then the removal of tab,
CR and LF), takes a scheme off the front, a network location after `//`, then the
fragment and the query; `urlparse` splits `;params` off the path for the schemes of
`uses_params`. The netloc is checked on the way, and each check raises `ValueError`
(`netlocError`, in CPython's order):

* a netloc with one square bracket and not the other: `Invalid IPv6 URL`;
* a netloc with both (`_check_bracketed_netloc`): the host after the last `@` must stand in
  brackets with nothing before them and only a `:` port after them, and pass
  `_check_bracketed_host`, which takes an IPvFuture or an IPv6 address
  (`SiteAuditor.Python.IpAddress`);
* `_checknetloc`: a netloc in which NFKC normalisation makes one of `/?#@:` appear
  (`nfkcNetlocDelims`).

The netloc `urlparse` returns is `netlocOf` of the URL's code points (`urlparse_netloc`),
and whether `urlparse` raises depends on that netloc alone (`urlparse_ok_iff`). It survives
the edits the auditor makes to URLs:

* `netlocOf_takeWhile`: cutting at the first `#` or `?` (`split("#")[0].split("?")[0]`);
* `netlocOf_rstrip`: `rstrip("/")`;
* `netlocOf_append_slash`: appending a path that starts with `/` to a URL with a netloc.
-/
import SiteAuditor.Python.IpAddress

namespace SiteAuditor.Py

set_option autoImplicit false

/-- `_WHATWG_C0_CONTROL_OR_SPACE`, stripped from the left of a URL. -/
def isC0ControlOrSpace (c : Char) : Bool :=
  decide (c.toNat ≤ 0x20)

/-- `_UNSAFE_URL_BYTES_TO_REMOVE`: tab, CR and LF, removed wherever they stand. -/
def isUnsafeUrlByte (c : Char) : Bool :=
  decide (c = '\t' ∨ c = '\r' ∨ c = '\n')

/-- `scheme_chars`: ASCII letters and digits, `+`, `-` and `.`. -/
def isSchemeChar (c : Char) : Bool :=
  c.isAlphanum || decide (c = '+' ∨ c = '-' ∨ c = '.')

/-- The characters that end a netloc in `_splitnetloc`. -/
def isNetlocDelim (c : Char) : Bool :=
  decide (c = '/' ∨ c = '?' ∨ c = '#')

/-- `uses_params`: the schemes whose last path segment can carry `;params`. -/
def usesParams : List String :=
  ["", "ftp", "hdl", "prospero", "http", "imap", "https", "shttp", "rtsp", "rtsps", "rtspu",
    "sip", "sips", "mms", "sftp", "tel"]

/-- The URL after `lstrip(_WHATWG_C0_CONTROL_OR_SPACE)` and the removal of unsafe bytes. -/
def sanitise (url : List Char) : List Char :=
  (url.dropWhile isC0ControlOrSpace).filter (fun c => !isUnsafeUrlByte c)

/-- The scheme test of `urlsplit`: `url[:i]`, before the first `:`, is a scheme when it is
non-empty, starts with an ASCII letter and holds only `scheme_chars`. The first `:` ends a
run of scheme characters exactly when every character before it is one, so the run is
taken with `takeWhile`. Returns the lower-cased scheme and the rest of the URL. -/
def splitScheme (url : List Char) : List Char × List Char :=
  match url.takeWhile isSchemeChar, url.dropWhile isSchemeChar with
  | c :: name, ':' :: rest => if c.isAlpha then ((c :: name).map Char.toLower, rest) else ([], url)
  | _, _ => ([], url)

/-- `_splitnetloc(url, 2)` when `url[:2] == '//'`: the netloc runs up to the first `/`,
`?` or `#`. Any other URL has an empty netloc. -/
def splitNetloc : List Char → List Char × List Char
  | '/' :: '/' :: url => (url.takeWhile (!isNetlocDelim ·), url.dropWhile (!isNetlocDelim ·))
  | url => ([], url)

/-- `_splitparams`: the path up to the first `;` of its last segment, and what follows. -/
def splitParams (url : List Char) : List Char × List Char :=
  let segment := (url.reverse.takeWhile (· ≠ '/')).reverse
  let dir := (url.reverse.dropWhile (· ≠ '/')).reverse
  if ';' ∈ segment then (dir ++ segment.takeWhile (· ≠ ';'), (segment.dropWhile (· ≠ ';')).drop 1)
  else (url, [])

/-- `'[' in netloc` without `']'`, or the other way round. -/
def unbalancedBrackets (netloc : List Char) : Bool :=
  decide (('[' ∈ netloc ∧ ']' ∉ netloc) ∨ (']' ∈ netloc ∧ '[' ∉ netloc))

/-- `ValueError("Invalid IPv6 URL")`. -/
def invalidIPv6Url : Exn :=
  .valueError "Invalid IPv6 URL"

/-- `_check_bracketed_netloc(netloc)`: after the last `@`, a `[` with nothing before it, a
host up to the `]`, and after it nothing or a port after `:`; with no `[` there, the host is
the text up to the first `:`. The host must pass `_check_bracketed_host`. -/
def checkBracketedNetloc (netloc : List Char) : Option Exn :=
  let hostnameAndPort := (netloc.reverse.takeWhile (· ≠ '@')).reverse
  if '[' ∈ hostnameAndPort then
    let (beforeBracket, bracketed) := splitOnce '[' hostnameAndPort
    let (hostname, port) := splitOnce ']' bracketed
    if beforeBracket ≠ [] ∨ (port ≠ [] ∧ port.head? ≠ some ':') then some invalidIPv6Url
    else checkBracketedHost hostname
  else checkBracketedHost (splitOnce ':' hostnameAndPort).1

/-- `_checknetloc(netloc)`: a netloc in which NFKC normalisation makes one of `/?#@:` appear
raises. -/
def checknetloc (netloc : List Char) : Option Exn :=
  if netloc.any fun c => nfkcNetlocDelims.contains c.toNat then
    some (.valueError ("netloc \x27" ++ ⟨netloc⟩ ++ "\x27 contains invalid characters under NFKC normalization"))
  else none

/-- The `ValueError` `urlsplit` raises for a netloc, or `none`: unbalanced brackets, then
`_check_bracketed_netloc` when both brackets are there, then `_checknetloc`. -/
def netlocError (netloc : List Char) : Option Exn :=
  if unbalancedBrackets netloc then some invalidIPv6Url
  else if '[' ∈ netloc ∧ ']' ∈ netloc then checkBracketedNetloc netloc <|> checknetloc netloc
  else checknetloc netloc

/-- `SplitResult`. -/
structure SplitResult where
  scheme : String
  netloc : String
  path : String
  query : String
  fragment : String
deriving DecidableEq, Repr

/-- `urlsplit(url)` with the default `scheme=''` and `allow_fragments=True`. -/
def urlsplit (url : String) : Except Exn SplitResult :=
  let afterScheme := splitScheme (sanitise url.data)
  let afterNetloc := splitNetloc afterScheme.2
  match netlocError afterNetloc.1 with
  | some e => .error e
  | none =>
    let fragment := splitOnce '#' afterNetloc.2
    let query := splitOnce '?' fragment.1
    .ok ⟨⟨afterScheme.1⟩, ⟨afterNetloc.1⟩, ⟨query.1⟩, ⟨query.2⟩, ⟨fragment.2⟩⟩

/-- `ParseResult`. -/
structure ParseResult where
  scheme : String
  netloc : String
  path : String
  params : String
  query : String
  fragment : String
deriving DecidableEq, Repr

/-- `urlparse(url)`. -/
def urlparse (url : String) : Except Exn ParseResult :=
  (urlsplit url).map fun r =>
    let split :=
      if r.scheme ∈ usesParams ∧ ';' ∈ r.path.data then splitParams r.path.data else (r.path.data, [])
    ⟨r.scheme, r.netloc, ⟨split.1⟩, ⟨split.2⟩, r.query, r.fragment⟩

example : (urlparse "https://a.test/x;p?q#f").map (·.path) = .ok "/x" := by decide
example : (urlparse "sms:+40123").map (·.netloc) = .ok "" := by decide
example : urlparse "http://[::1/" = .error (.valueError "Invalid IPv6 URL") ∧
    (urlparse "http://u@[::1]:8080/x").map (·.netloc) = .ok "u@[::1]:8080" ∧
    urlparse "http://[1.2.3.4]/" = .error (.valueError "An IPv4 address cannot be in brackets") ∧
    urlparse "http://[site:url]/node" =
      .error (.valueError "\x27site:url\x27 does not appear to be an IPv4 or IPv6 address") ∧
    urlparse "http://a\u2100.test/" =
      .error (.valueError "netloc \x27a\u2100.test\x27 contains invalid characters under NFKC normalization") := by
  decide

/-! ## The netloc -/

/-- The netloc `urlsplit` reads off a URL's code points, before its checks. -/
def netlocOf (url : List Char) : List Char :=
  (splitNetloc (splitScheme (sanitise url)).2).1

theorem urlparse_netloc {url : String} {p : ParseResult} (h : urlparse url = .ok p) :
    p.netloc.data = netlocOf url.data := by
  simp only [urlparse, urlsplit, netlocOf] at h ⊢
  split at h
  · cases h
  · cases h; rfl

/-- `urlparse` raises exactly when its netloc fails a check. -/
theorem urlparse_ok_iff (url : String) : (∃ p, urlparse url = .ok p) ↔ netlocError (netlocOf url.data) = none := by
  simp only [urlparse, urlsplit, netlocOf]
  split <;> simp_all [Except.map]

/-- Two URLs with one netloc either both parse or both raise. -/
theorem urlparse_ok_of_netlocOf {url url' : String} {p : ParseResult} (h : urlparse url = .ok p)
    (same : netlocOf url'.data = netlocOf url.data) : ∃ p', urlparse url' = .ok p' ∧ p'.netloc = p.netloc := by
  obtain ⟨p', hp'⟩ := (urlparse_ok_iff url').mpr (same ▸ (urlparse_ok_iff url).mp ⟨p, h⟩)
  exact ⟨p', hp', String.ext (by rw [urlparse_netloc hp', urlparse_netloc h, same])⟩

/-! ## Cutting at `#` or `?` -/

section Cut

variable {α : Type} {p q : α → Bool}

theorem takeWhile_takeWhile_of_imp (h : ∀ a, p a → q a) (l : List α) :
    (l.takeWhile q).takeWhile p = l.takeWhile p := by
  rw [List.takeWhile_takeWhile]
  congr 1
  funext a
  by_cases hp : p a <;> simp [hp, h a]

theorem dropWhile_takeWhile_comm (h : ∀ a, p a → q a) (l : List α) :
    (l.takeWhile q).dropWhile p = (l.dropWhile p).takeWhile q := by
  induction l with
  | nil => rfl
  | cons a l ih =>
      by_cases hp : p a
      · simp [List.takeWhile_cons, List.dropWhile_cons, hp, h a hp, ih]
      · cases hq : q a <;> simp [List.takeWhile_cons, List.dropWhile_cons, hp, hq]

theorem filter_takeWhile_comm (h : ∀ a, p a = false → q a) (l : List α) :
    (l.takeWhile q).filter p = (l.filter p).takeWhile q := by
  induction l with
  | nil => rfl
  | cons a l ih =>
      cases hq : q a <;> cases hp : p a <;>
        simp_all [List.takeWhile_cons, List.filter_cons]

end Cut

section Cut

variable {q : Char → Bool} (hq : ∀ c, q c = false → c = '#' ∨ c = '?')
include hq

theorem cut_keeps {c : Char} (h : c ≠ '#' ∧ c ≠ '?') : q c := by
  by_contra hc
  rcases hq c (by simpa using hc) with rfl | rfl <;> simp at h

theorem sanitise_takeWhile (l : List Char) : sanitise (l.takeWhile q) = (sanitise l).takeWhile q := by
  have hc0 : ∀ c, isC0ControlOrSpace c → q c := fun c hc =>
    cut_keeps hq (by constructor <;> rintro rfl <;> revert hc <;> decide)
  have hsafe : ∀ c, (!isUnsafeUrlByte c) = false → q c := fun c hc =>
    cut_keeps hq (by constructor <;> rintro rfl <;> revert hc <;> decide)
  rw [sanitise, sanitise, dropWhile_takeWhile_comm hc0, filter_takeWhile_comm hsafe]

theorem splitScheme_takeWhile (u : List Char) :
    (splitScheme (u.takeWhile q)).2 = (splitScheme u).2.takeWhile q := by
  have hs : ∀ c, isSchemeChar c → q c := fun c hc =>
    cut_keeps hq (by constructor <;> rintro rfl <;> revert hc <;> decide)
  have hcolon : q ':' := cut_keeps hq (by decide)
  unfold splitScheme
  rw [takeWhile_takeWhile_of_imp hs, dropWhile_takeWhile_comm hs]
  rcases u.takeWhile isSchemeChar with _ | ⟨c, name⟩
  · rfl
  · rcases u.dropWhile isSchemeChar with _ | ⟨e, rest⟩
    · rfl
    · by_cases he : e = ':'
      · subst he
        simp only [List.takeWhile_cons, hcolon, ite_true]
        split <;> rfl
      · cases hqe : q e <;> simp [List.takeWhile_cons, hqe, he]

theorem splitNetloc_takeWhile (r : List Char) :
    (splitNetloc (r.takeWhile q)).1 = (splitNetloc r).1 := by
  have hslash : q '/' := cut_keeps hq (by decide)
  have hdelim : ∀ c, (!isNetlocDelim c) = true → q c := fun c hc =>
    cut_keeps hq (by constructor <;> rintro rfl <;> revert hc <;> decide)
  rcases r with _ | ⟨a, _ | ⟨b, r⟩⟩
  · rfl
  · cases h : q a <;> simp [List.takeWhile_cons, h, splitNetloc]
  · by_cases ha : a = '/' <;> by_cases hb : b = '/'
    · subst ha hb
      simp [List.takeWhile_cons, hslash, splitNetloc, takeWhile_takeWhile_of_imp hdelim]
    all_goals
      cases h1 : q a <;> cases h2 : q b <;> simp_all [List.takeWhile_cons, splitNetloc]

/-- Cutting a URL at a `#` or a `?` keeps its netloc. -/
theorem netlocOf_takeWhile (l : List Char) : netlocOf (l.takeWhile q) = netlocOf l := by
  rw [netlocOf, sanitise_takeWhile hq, splitScheme_takeWhile hq, splitNetloc_takeWhile hq, netlocOf]

end Cut

/-! ## Appending a path -/

section Append

variable {α : Type} {p : α → Bool} {a : α}

theorem takeWhile_append_cons_of_false (ha : p a = false) (u v : List α) :
    (u ++ a :: v).takeWhile p = u.takeWhile p := by
  induction u with
  | nil => simp [ha]
  | cons x u ih => cases hx : p x <;> simp [List.takeWhile_cons, hx, ih]

theorem dropWhile_append_cons_of_false (ha : p a = false) (u v : List α) :
    (u ++ a :: v).dropWhile p = u.dropWhile p ++ a :: v := by
  induction u with
  | nil => simp [ha]
  | cons x u ih => cases hx : p x <;> simp [List.dropWhile_cons, hx, ih]

end Append

theorem sanitise_append_slash (l w : List Char) :
    sanitise (l ++ '/' :: w) = sanitise l ++ '/' :: w.filter (fun c => !isUnsafeUrlByte c) := by
  rw [sanitise, dropWhile_append_cons_of_false (by decide), List.filter_append, sanitise]
  simp [List.filter_cons, show isUnsafeUrlByte '/' = false by decide]

theorem splitScheme_append_slash (u v : List Char) :
    (splitScheme (u ++ '/' :: v)).2 = (splitScheme u).2 ++ '/' :: v := by
  unfold splitScheme
  rw [takeWhile_append_cons_of_false (by decide), dropWhile_append_cons_of_false (by decide)]
  rcases u.takeWhile isSchemeChar with _ | ⟨c, name⟩
  · rfl
  · rcases u.dropWhile isSchemeChar with _ | ⟨e, rest⟩
    · rfl
    · by_cases he : e = ':'
      · subst he
        simp only [List.cons_append]
        split <;> rfl
      · simp [he]

theorem splitNetloc_append_slash (r v : List Char) (h : v = [] ∨ (splitNetloc r).1 ≠ []) :
    (splitNetloc (r ++ '/' :: v)).1 = (splitNetloc r).1 := by
  rcases r with _ | ⟨a, _ | ⟨b, r⟩⟩
  · obtain rfl | h := h
    · rfl
    · exact absurd rfl h
  · by_cases ha : a = '/'
    · subst ha
      obtain rfl | h := h
      · rfl
      · exact absurd rfl h
    · simp [splitNetloc, ha]
  · by_cases ha : a = '/' <;> by_cases hb : b = '/'
    · subst ha hb
      exact takeWhile_append_cons_of_false (by decide) r v
    all_goals simp [splitNetloc, ha, hb]

/-- Appending a path that starts with `/` keeps a netloc that is there, and appending `/`
alone keeps any netloc. -/
theorem netlocOf_append_slash (l w : List Char) (h : w = [] ∨ netlocOf l ≠ []) :
    netlocOf (l ++ '/' :: w) = netlocOf l := by
  rw [netlocOf, sanitise_append_slash, splitScheme_append_slash, splitNetloc_append_slash, netlocOf]
  exact h.imp (fun hw => by simp [hw]) id

theorem netlocOf_append_replicate (l : List Char) (n : Nat) :
    netlocOf (l ++ List.replicate n '/') = netlocOf l := by
  induction n with
  | zero => simp
  | succ n ih =>
      rw [List.replicate_succ', ← List.append_assoc, netlocOf_append_slash _ _ (.inl rfl), ih]

/-- `rstrip("/")` keeps the netloc. -/
theorem netlocOf_rstrip (s : String) : netlocOf (rstrip (· = '/') s).data = netlocOf s.data := by
  obtain ⟨n, hn⟩ := rstrip_append_replicate '/' s
  rw [← hn, netlocOf_append_replicate]

end SiteAuditor.Py
