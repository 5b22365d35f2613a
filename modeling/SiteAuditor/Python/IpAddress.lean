/-
# SiteAuditor.Python.IpAddress — `ipaddress.ip_address` on a string, as `urlsplit` calls it

`urlsplit` checks a bracketed host (`_check_bracketed_host`) with `ipaddress.ip_address`,
which tries `IPv4Address`, then `IPv6Address`, and raises `ValueError` when neither takes the
text. `urlsplit` only asks which of the three happens, so the model returns the address's
version and leaves out the value of an IPv6 address:

* `ipv4Address` is `IPv4Address(address)`: no `/`, then `_ip_int_from_string`, four
  dot-separated octets, each one to three ASCII digits with no leading zero and at most 255
  (`parseOctet`);
* `ipv6Accepts` is `IPv6Address(address)` returning: no `/`, a scope id after `%` that is
  not empty (`_split_scope_id`), then `_ip_int_from_string` on the parts between colons: an
  IPv4 suffix becomes two hextets, at most nine parts, at most one `::`, and one to four hex
  digits in each hextet the address keeps (`isHextet`).

Some releases first refuse an address of more than 45 characters; no text the other checks
accept is that long, so the check is left out.

* `ipv6Accepts_of_ipv4Address`: no text is both an IPv4 and an IPv6 address;
* `checkBracketedHost_eq_none_iff`: a bracketed host passes exactly when it is an IPvFuture
  address (`v` first) or an IPv6 one: the IPv4 branch of `_check_bracketed_host` never refuses
  a host the IPv6 parser takes.
-/
import SiteAuditor.Python.Int

namespace SiteAuditor.Py

set_option autoImplicit false

/-! ## IPv4 -/

/-- `IPv4Address._parse_octet`: one to three ASCII digits, no leading zero, at most 255. -/
def parseOctet (octet : List Char) : Option Nat :=
  if octet = [] ∨ ¬octet.all Char.isDigit ∨ 3 < octet.length ∨ (octet ≠ ['0'] ∧ octet.head? = some '0') then
    none
  else if 255 < digitsValue octet then none
  else some (digitsValue octet)

/-- `IPv4Address._ip_int_from_string`: the four octets read big-endian, or `none` where it
raises. -/
def ipv4IntFromString (ipStr : List Char) : Option Nat :=
  match ipStr.splitOn '.' with
  | [a, b, c, d] => do
    let a ← parseOctet a
    let b ← parseOctet b
    let c ← parseOctet c
    let d ← parseOctet d
    pure (((a * 256 + b) * 256 + c) * 256 + d)
  | _ => none

/-- `IPv4Address(address)` for a `str`. -/
def ipv4Address (address : List Char) : Option Nat :=
  if '/' ∈ address then none else ipv4IntFromString address

example : ipv4Address "10.0.0.255".data = some 0x0A0000FF ∧ ipv4Address "1.2.3.04".data = none ∧
    ipv4Address "1.2.3".data = none := by decide

/-! ## IPv6 -/

/-- `IPv6Address._HEX_DIGITS`. -/
def isHexDigit (c : Char) : Bool :=
  c.isDigit || decide ('a' ≤ c ∧ c ≤ 'f') || decide ('A' ≤ c ∧ c ≤ 'F')

/-- `IPv6Address._parse_hextet` returns: one to four hex digits (`int("", 16)` raises). -/
def isHextet (hextet : List Char) : Bool :=
  !hextet.isEmpty && hextet.all isHexDigit && decide (hextet.length ≤ 4)

/-- `'%x' % n`. -/
def hexText (n : Nat) : List Char :=
  Nat.toDigits 16 n

/-- The parts after an IPv4 suffix, if the last part has a `.`, is replaced by its two
hextets; `none` when the suffix is no IPv4 address. -/
def ipv4Suffix (parts : List (List Char)) : Option (List (List Char)) :=
  match parts.getLast? with
  | some last =>
    if '.' ∈ last then
      (ipv4Address last).map fun ip => parts.dropLast ++ [hexText (ip / 65536 % 65536), hexText (ip % 65536)]
    else some parts
  | none => some parts

/-- The indices `i` in `range(1, len(parts) - 1)` of the empty parts: each is a `::`. -/
def skipIndices (parts : List (List Char)) : List Nat :=
  (List.range parts.length).filter fun i => decide (0 < i ∧ i + 1 < parts.length ∧ parts.getD i [] = [])

/-- `parts_hi` and `parts_lo` around the `::` at `skip`: the parts kept before it and after
it, `none` where an empty end part does not belong to the `::`. -/
def skipParts (parts : List (List Char)) (skip : Nat) : Option (Nat × Nat) :=
  let hi := if parts.head? = some [] then skip - 1 else skip
  let lo := if parts.getLast? = some [] then parts.length - skip - 2 else parts.length - skip - 1
  if (parts.head? = some [] ∧ hi ≠ 0) ∨ (parts.getLast? = some [] ∧ lo ≠ 0) then none else some (hi, lo)

/-- The checks of `IPv6Address._ip_int_from_string` once the IPv4 suffix is replaced: at
most nine parts; with no `::` exactly eight hextets (an empty end part is no hextet); with one,
fewer than eight parts kept, each a hextet. -/
def ipv6PartsOk (parts : List (List Char)) : Bool :=
  decide (parts.length ≤ 9) &&
    match skipIndices parts with
    | [] => decide (parts.length = 8) && parts.all isHextet
    | [skip] =>
      match skipParts parts skip with
      | some (hi, lo) =>
        decide (hi + lo < 8) && (parts.take hi).all isHextet && (parts.drop (parts.length - lo)).all isHextet
      | none => false
    | _ => false

/-- `IPv6Address(address)` returns, for a `str`. -/
def ipv6Accepts (address : List Char) : Bool :=
  if '/' ∈ address then false
  else
    let (addr, scope) := splitOnce '%' address
    if '%' ∈ address ∧ (scope = [] ∨ '%' ∈ scope) then false
    else
      let parts := addr.splitOn ':'
      if parts.length < 3 then false
      else
        match ipv4Suffix parts with
        | some parts => ipv6PartsOk parts
        | none => false

example : ipv6Accepts "::1".data ∧ ipv6Accepts "fe80::1%eth0".data ∧ ipv6Accepts "::ffff:10.0.0.1".data ∧
    !ipv6Accepts "1::2::3".data ∧ !ipv6Accepts "site:url".data ∧ !ipv6Accepts "1:2:3:4:5:6:7".data := by decide

/-! ## `ip_address` -/

/-- The class of address `ip_address` returns. -/
inductive IPVersion
  | v4
  | v6
deriving DecidableEq, Repr

/-- `ipaddress.ip_address(address)` for a `str`. -/
def ipAddress (address : List Char) : Except Exn IPVersion :=
  if (ipv4Address address).isSome then .ok .v4
  else if ipv6Accepts address then .ok .v6
  else .error (.valueError (reprStr ⟨address⟩ ++ " does not appear to be an IPv4 or IPv6 address"))

/-- The regular expression `\Av[a-fA-F0-9]+\..+\Z` of an IPvFuture address (`.` takes any
character but a newline). -/
def isIPvFuture : List Char → Bool
  | 'v' :: rest =>
    match rest.dropWhile isHexDigit with
    | '.' :: tail => !(rest.takeWhile isHexDigit).isEmpty && !tail.isEmpty && !tail.contains '\n'
    | _ => false
  | _ => false

/-- `_check_bracketed_host(hostname)`: the `ValueError` it raises, or `none`. -/
def checkBracketedHost (hostname : List Char) : Option Exn :=
  if hostname.head? = some 'v' then
    if isIPvFuture hostname then none else some (.valueError "IPvFuture address is invalid")
  else
    match ipAddress hostname with
    | .error e => some e
    | .ok .v4 => some (.valueError "An IPv4 address cannot be in brackets")
    | .ok .v6 => none

/-! ## What a bracketed host may be -/

/-- `ipv4IntFromString` takes only digits and dots. -/
theorem ipv4IntFromString_chars {ipStr : List Char} {ip : Nat} (h : ipv4IntFromString ipStr = some ip) :
    ∀ c ∈ ipStr, c.isDigit ∨ c = '.' := by
  have hoctet : ∀ {o n}, parseOctet o = some n → ∀ c ∈ o, c.isDigit := fun {o n} ho c hc => by
    unfold parseOctet at ho
    split_ifs at ho with h1
    exact List.all_eq_true.mp (by simpa using (not_or.mp (not_or.mp h1).2).1) c hc
  unfold ipv4IntFromString at h
  split at h
  next a b c d hsplit =>
    simp only [Option.bind_eq_bind, Option.bind_eq_some, Option.pure_def] at h
    obtain ⟨_, ha, _, hb, _, hc, _, hd, -⟩ := h
    intro x hx
    rw [← List.intercalate_splitOn (x := '.') ipStr, hsplit] at hx
    simp only [List.intercalate, List.intersperse, List.flatten, List.mem_append, List.mem_singleton,
      List.not_mem_nil, or_false] at hx
    rcases hx with hx | rfl | hx | rfl | hx | rfl | hx
    exacts [.inl (hoctet ha x hx), .inr rfl, .inl (hoctet hb x hx), .inr rfl, .inl (hoctet hc x hx), .inr rfl,
      .inl (hoctet hd x hx)]
  next => cases h

/-- No text is both an IPv4 and an IPv6 address: an IPv4 one has no `:`, so it splits into
one part. -/
theorem ipv6Accepts_of_ipv4Address {address : List Char} {ip : Nat} (h : ipv4Address address = some ip) :
    ipv6Accepts address = false := by
  unfold ipv4Address at h
  split_ifs at h with hslash
  have hcolon : ∀ c ∈ (splitOnce '%' address).1, ¬(c == ':') = true := fun c hc => by
    rcases ipv4IntFromString_chars h c (List.takeWhile_subset _ hc) with hd | rfl
    · rintro heq; rw [beq_iff_eq.mp heq] at hd; cases hd
    · decide
  unfold ipv6Accepts
  simp only [hslash, if_false]
  split_ifs with hscope hlen
  · rfl
  · rfl
  · rw [List.splitOn, List.splitOnP_eq_single _ _ hcolon] at hlen
    exact (hlen (by simp)).elim

/-- **A bracketed host passes `_check_bracketed_host` exactly when it is an IPvFuture address
or an IPv6 one.** -/
theorem checkBracketedHost_eq_none_iff (hostname : List Char) :
    checkBracketedHost hostname = none ↔
      if hostname.head? = some 'v' then isIPvFuture hostname else ipv6Accepts hostname := by
  unfold checkBracketedHost ipAddress
  by_cases hv : hostname.head? = some 'v'
  · cases isIPvFuture hostname <;> simp [hv]
  · cases h4 : ipv4Address hostname with
    | some ip => simp [hv, ipv6Accepts_of_ipv4Address h4]
    | none => cases ipv6Accepts hostname <;> simp [hv]

end SiteAuditor.Py
