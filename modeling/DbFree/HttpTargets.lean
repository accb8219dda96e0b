import DbFree.Errors
import DbFree.SqlText

/- Which addresses the HTTP nodes of a workflow may call (services/workflows/policy.rs). -/
namespace DbFree.Workflows.Policy

section Addresses

structure Ipv4Addr where
  a : UInt8
  b : UInt8
  c : UInt8
  d : UInt8
deriving DecidableEq

/-- An address by its segments. -/
structure Ipv6Addr where
  s0 : UInt16
  s1 : UInt16
  s2 : UInt16
  s3 : UInt16
  s4 : UInt16
  s5 : UInt16
  s6 : UInt16
  s7 : UInt16
deriving DecidableEq

inductive IpAddr where
  | v4 (ip : Ipv4Addr)
  | v6 (ip : Ipv6Addr)
deriving DecidableEq

def high (segment : UInt16) : UInt8 := UInt8.ofNat (segment.toNat / 256)

def low (segment : UInt16) : UInt8 := UInt8.ofNat (segment.toNat % 256)

/-- The address whose octets are those of two segments. -/
def octetsOf (first second : UInt16) : Ipv4Addr := ⟨high first, low first, high second, low second⟩

/-- `to_ipv4_mapped`. -/
def Ipv6Addr.toIpv4Mapped (ip : Ipv6Addr) : Option Ipv4Addr :=
  if ip.s0 = 0 ∧ ip.s1 = 0 ∧ ip.s2 = 0 ∧ ip.s3 = 0 ∧ ip.s4 = 0 ∧ ip.s5 = 0xffff then
    some (octetsOf ip.s6 ip.s7)
  else none

def Ipv4Addr.isLoopback (ip : Ipv4Addr) : Bool := ip.a == 127

def Ipv4Addr.isLinkLocal (ip : Ipv4Addr) : Bool := ip.a == 169 && ip.b == 254

def Ipv4Addr.isPrivate (ip : Ipv4Addr) : Bool :=
  ip.a == 10 || (ip.a == 172 && 16 ≤ ip.b && ip.b ≤ 31) || (ip.a == 192 && ip.b == 168)

def Ipv4Addr.isUnspecified (ip : Ipv4Addr) : Bool := ip == ⟨0, 0, 0, 0⟩

def Ipv4Addr.isMulticast (ip : Ipv4Addr) : Bool := 224 ≤ ip.a && ip.a ≤ 239

def Ipv4Addr.isBroadcast (ip : Ipv4Addr) : Bool := ip == ⟨255, 255, 255, 255⟩

def Ipv6Addr.isLoopback (ip : Ipv6Addr) : Bool := ip == ⟨0, 0, 0, 0, 0, 0, 0, 1⟩

def Ipv6Addr.isUnspecified (ip : Ipv6Addr) : Bool := ip == ⟨0, 0, 0, 0, 0, 0, 0, 0⟩

def Ipv6Addr.isMulticast (ip : Ipv6Addr) : Bool := ip.s0 &&& 0xff00 == 0xff00

def v4Reason (ip : Ipv4Addr) : Option String :=
  if ip.isLoopback then some "a loopback address"
  else if ip.isLinkLocal then some "a link-local address (cloud metadata lives here)"
  else if ip.isPrivate then some "a private-network address"
  else if ip.a = 0 then some "a this-network address"
  else if ip.a = 100 ∧ ip.b &&& 0xc0 = 64 then some "a carrier-grade NAT address"
  else if ip.isUnspecified then some "an unspecified address"
  else if ip.isMulticast || ip.isBroadcast then some "a multicast or broadcast address"
  else none

def v6Reason (ip : Ipv6Addr) : Option String :=
  if ip.isLoopback then some "a loopback address"
  else if ip.isUnspecified then some "an unspecified address"
  else if ip.s0 &&& 0xffc0 = 0xfe80 then some "a link-local address (cloud metadata lives here)"
  else if ip.s0 &&& 0xfe00 = 0xfc00 then some "a private-network address"
  else if ip.isMulticast then some "a multicast address"
  else none

/-- Why an address is not public. -/
def privateAddressReason : IpAddr → Option String
  | .v4 ip => v4Reason ip
  | .v6 ip =>
    match ip.toIpv4Mapped with
    | some ip => v4Reason ip
    | none => v6Reason ip

end Addresses

section Texts

def Ipv4Addr.text (ip : Ipv4Addr) : Text :=
  SqlText.join ".".toList ([ip.a, ip.b, ip.c, ip.d].map fun octet => decimal octet.toNat)

def Ipv6Addr.segments (ip : Ipv6Addr) : List UInt16 :=
  [ip.s0, ip.s1, ip.s2, ip.s3, ip.s4, ip.s5, ip.s6, ip.s7]

/-- The first longest run of zero segments: where it starts, and its length. -/
def zeroRun (segments : List UInt16) : Nat × Nat :=
  (List.range segments.length).foldl (fun longest start =>
    let length := ((segments.drop start).takeWhile (· = 0)).length
    if longest.2 < length then (start, length) else longest) (0, 0)

def hexText (segments : List UInt16) : Text :=
  SqlText.join ":".toList (segments.map fun segment => Nat.toDigits 16 segment.toNat)

def Ipv6Addr.text (ip : Ipv6Addr) : Text :=
  match ip.toIpv4Mapped with
  | some mapped => "::ffff:".toList ++ mapped.text
  | none =>
    let (start, length) := zeroRun ip.segments
    if 1 < length then
      hexText (ip.segments.take start) ++ "::".toList ++ hexText (ip.segments.drop (start + length))
    else hexText ip.segments

def IpAddr.text : IpAddr → Text
  | v4 ip => ip.text
  | v6 ip => ip.text

end Texts

section Targets

inductive Host where
  | domain (name : Text)
  | ipv4 (ip : Ipv4Addr)
  | ipv6 (ip : Ipv6Addr)
deriving DecidableEq

structure Url where
  scheme : Text
  /-- `port_or_known_default()`. -/
  port : Option Nat
  host : Option Host

structure SocketAddr where
  ip : IpAddr
  port : Nat
deriving DecidableEq

structure PinnedTarget where
  host : Option Text
  addrs : List SocketAddr
deriving DecidableEq

/-- What is asked of outside: the URL parser, the resolver and Unicode lower-casing. -/
structure Outside where
  parse : Text → Option Url
  lookupHost : Text → Nat → Option (List SocketAddr)
  toLowercase : Text → Text

def parseHttpUrl (outside : Outside) (raw : Text) : Except AppError Url :=
  match outside.parse raw with
  | none => .error (.invalidInput "The URL is not valid.".toList)
  | some url =>
    if url.scheme = "http".toList ∨ url.scheme = "https".toList then .ok url
    else .error (.invalidInput ("Only http and https URLs can be called, not \"".toList ++
      url.scheme ++ "\".".toList))

def blocked (host : Text) (reason : String) : AppError :=
  .invalidInput ("Blocked: ".toList ++ host ++ " is ".toList ++ reason.toList ++
    (". Turn on \"Allow private network addresses\" in the HTTP node's settings " ++
      "to call it.").toList)

def vetLiteral (ip : IpAddr) (port : Nat) (allowPrivate : Bool) : Except AppError PinnedTarget :=
  match if allowPrivate then none else privateAddressReason ip with
  | some reason => .error (blocked ip.text reason)
  | none => .ok ⟨none, [⟨ip, port⟩]⟩

/-- Names of the local machine or of cloud metadata, refused before any lookup. -/
def deniedHostName (outside : Outside) (host : Text) : Option String :=
  let host := outside.toLowercase (host.rdropWhile (· = '.'))
  if host = "localhost".toList ∨ ".localhost".toList.isSuffixOf host = true then
    some "a localhost name"
  else if host = "metadata.google.internal".toList ∨ host = "metadata".toList then
    some "a cloud metadata name"
  else none

/-- A name that is resolved: every address of the answer has to be public. -/
def vetDomain (outside : Outside) (name : Text) (port : Nat) (allowPrivate : Bool) :
    Except AppError PinnedTarget :=
  match if allowPrivate then none else deniedHostName outside name with
  | some reason => .error (blocked name reason)
  | none =>
    let unresolved := AppError.invalidInput ("Could not resolve ".toList ++ name ++ ".".toList)
    match outside.lookupHost name port with
    | none => .error unresolved
    | some addrs =>
      if addrs = [] then .error unresolved
      else
        match if allowPrivate then none else addrs.findSome? fun a => privateAddressReason a.ip with
        | some reason => .error (blocked name ("resolving to " ++ reason))
        | none => .ok ⟨some name, addrs⟩

def vetHttpTarget (outside : Outside) (raw : Text) (allowPrivate : Bool) :
    Except AppError PinnedTarget := do
  let url ← parseHttpUrl outside raw
  let port := url.port.getD 443
  match url.host with
  | none => .error (.invalidInput "The URL has no host.".toList)
  | some (.ipv4 ip) => vetLiteral (.v4 ip) port allowPrivate
  | some (.ipv6 ip) => vetLiteral (.v6 ip) port allowPrivate
  | some (.domain name) => vetDomain outside name port allowPrivate

end Targets

section Embeddings

/-- The standard ways for an IPv6 address to carry an IPv4 one. -/
inductive Embedding where
  /-- `::ffff:0:0/96`. -/
  | mapped
  /-- `::/96`. -/
  | compatible
  /-- `64:ff9b::/96`. -/
  | nat64
  /-- `2002::/16`. -/
  | sixToFour
deriving DecidableEq

/-- The address that is carried. -/
def Embedding.read (ip : Ipv6Addr) : Embedding → Option Ipv4Addr
  | mapped =>
    if ip.s0 = 0 ∧ ip.s1 = 0 ∧ ip.s2 = 0 ∧ ip.s3 = 0 ∧ ip.s4 = 0 ∧ ip.s5 = 0xffff then
      some (octetsOf ip.s6 ip.s7)
    else none
  | compatible =>
    if ip.s0 = 0 ∧ ip.s1 = 0 ∧ ip.s2 = 0 ∧ ip.s3 = 0 ∧ ip.s4 = 0 ∧ ip.s5 = 0 then
      some (octetsOf ip.s6 ip.s7)
    else none
  | nat64 =>
    if ip.s0 = 0x64 ∧ ip.s1 = 0xff9b ∧ ip.s2 = 0 ∧ ip.s3 = 0 ∧ ip.s4 = 0 ∧ ip.s5 = 0 then
      some (octetsOf ip.s6 ip.s7)
    else none
  | sixToFour => if ip.s0 = 0x2002 then some (octetsOf ip.s1 ip.s2) else none

theorem v6Reason_none {ip : Ipv6Addr} (first : ip.s0 ≠ 0)
    (masks : ip.s0 &&& 0xffc0 ≠ 0xfe80 ∧ ip.s0 &&& 0xfe00 ≠ 0xfc00 ∧ ip.s0 &&& 0xff00 ≠ 0xff00) :
    privateAddressReason (.v6 ip) = none := by
  have not_mapped : ip.toIpv4Mapped = none := if_neg fun zero => first zero.1
  have not_loopback : ip.isLoopback = false := by
    rw [Ipv6Addr.isLoopback, beq_eq_false_iff_ne]
    rintro rfl
    exact first rfl
  have not_unspecified : ip.isUnspecified = false := by
    rw [Ipv6Addr.isUnspecified, beq_eq_false_iff_ne]
    rintro rfl
    exact first rfl
  have not_multicast : ip.isMulticast = false := by
    rw [Ipv6Addr.isMulticast, beq_eq_false_iff_ne]
    exact masks.2.2
  rw [privateAddressReason, not_mapped]
  simp [v6Reason, not_loopback, not_unspecified, not_multicast, masks]

theorem segment_eq_iff (segment : UInt16) (n : Nat) (small : n < 256) :
    (high segment = 0 ∧ low segment = UInt8.ofNat n) ↔ segment = UInt16.ofNat n := by
  have bound := segment.toNat_lt
  rw [← UInt8.toNat_inj, ← UInt8.toNat_inj, ← UInt16.toNat_inj, high, low]
  simp only [UInt8.toNat_ofNat', UInt16.toNat_ofNat', UInt8.toNat_zero]
  omega

theorem mapped_refused {ip : Ipv6Addr} {a : Ipv4Addr} (carries : Embedding.mapped.read ip = some a)
    (reason : (v4Reason a).isSome = true) : (privateAddressReason (.v6 ip)).isSome = true := by
  have is_mapped : ip.toIpv4Mapped = some a := carries
  rw [privateAddressReason, is_mapped]
  exact reason

/-- Of the compatible addresses, the two that are the unspecified and the loopback address of
IPv6. -/
theorem compatible_refused_iff {ip : Ipv6Addr} {a : Ipv4Addr}
    (carries : Embedding.compatible.read ip = some a) :
    (privateAddressReason (.v6 ip)).isSome = true ↔ a = ⟨0, 0, 0, 0⟩ ∨ a = ⟨0, 0, 0, 1⟩ := by
  obtain ⟨s0, s1, s2, s3, s4, s5, s6, s7⟩ := ip
  unfold Embedding.read at carries
  dsimp only at carries
  split at carries
  · rename_i zeros
    obtain ⟨rfl, rfl, rfl, rfl, rfl, rfl⟩ := zeros
    cases carries
    have not_mapped : (⟨0, 0, 0, 0, 0, 0, s6, s7⟩ : Ipv6Addr).toIpv4Mapped = none := rfl
    have one := segment_eq_iff s7 1 (by decide)
    have zero := segment_eq_iff s7 0 (by decide)
    have above := segment_eq_iff s6 0 (by decide)
    have is_loopback : (⟨0, 0, 0, 0, 0, 0, s6, s7⟩ : Ipv6Addr).isLoopback = true ↔
        octetsOf s6 s7 = ⟨0, 0, 0, 1⟩ := by
      rw [Ipv6Addr.isLoopback, beq_iff_eq, octetsOf]
      simp only [Ipv6Addr.mk.injEq, Ipv4Addr.mk.injEq, true_and]
      have first : s6 = 0 ↔ high s6 = 0 ∧ low s6 = 0 := above.symm
      have second : s7 = 1 ↔ high s7 = 0 ∧ low s7 = 1 := one.symm
      rw [first, second, and_assoc]
    have is_unspecified : (⟨0, 0, 0, 0, 0, 0, s6, s7⟩ : Ipv6Addr).isUnspecified = true ↔
        octetsOf s6 s7 = ⟨0, 0, 0, 0⟩ := by
      rw [Ipv6Addr.isUnspecified, beq_iff_eq, octetsOf]
      simp only [Ipv6Addr.mk.injEq, Ipv4Addr.mk.injEq, true_and]
      have first : s6 = 0 ↔ high s6 = 0 ∧ low s6 = 0 := above.symm
      have second : s7 = 0 ↔ high s7 = 0 ∧ low s7 = 0 := zero.symm
      rw [first, second, and_assoc]
    rw [privateAddressReason, not_mapped, ← is_loopback, ← is_unspecified]
    dsimp only
    unfold v6Reason
    by_cases loopback : (⟨0, 0, 0, 0, 0, 0, s6, s7⟩ : Ipv6Addr).isLoopback = true
    · rw [if_pos loopback]
      exact ⟨fun _ => .inr loopback, fun _ => rfl⟩
    · rw [if_neg loopback]
      by_cases unspecified : (⟨0, 0, 0, 0, 0, 0, s6, s7⟩ : Ipv6Addr).isUnspecified = true
      · rw [if_pos unspecified]
        exact ⟨fun _ => .inl unspecified, fun _ => rfl⟩
      · have masks : (0 : UInt16) &&& 0xffc0 ≠ 0xfe80 ∧ (0 : UInt16) &&& 0xfe00 ≠ 0xfc00 := by
          decide
        have not_multicast : ((0 : UInt16) &&& 0xff00 == 0xff00) = false := by decide
        rw [if_neg unspecified, if_neg masks.1, if_neg masks.2, Ipv6Addr.isMulticast,
          not_multicast, if_neg Bool.false_ne_true]
        constructor
        · intro absurd_some
          cases absurd_some
        · rintro (is_unspecified | is_loopback)
          · exact absurd is_unspecified unspecified
          · exact absurd is_loopback loopback
  · cases carries

theorem nat64_allowed {ip : Ipv6Addr} {a : Ipv4Addr} (carries : Embedding.nat64.read ip = some a) :
    privateAddressReason (.v6 ip) = none := by
  unfold Embedding.read at carries
  dsimp only at carries
  split at carries
  · rename_i embedded
    apply v6Reason_none
    · rw [embedded.1]
      decide
    · rw [embedded.1]
      decide
  · cases carries

theorem sixToFour_allowed {ip : Ipv6Addr} {a : Ipv4Addr}
    (carries : Embedding.sixToFour.read ip = some a) : privateAddressReason (.v6 ip) = none := by
  unfold Embedding.read at carries
  dsimp only at carries
  split at carries
  · rename_i embedded
    apply v6Reason_none
    · rw [embedded]
      decide
    · rw [embedded]
      decide
  · cases carries

end Embeddings

section Vetting

variable {outside : Outside}

theorem vetLiteral_public {ip : IpAddr} {port : Nat} {target : PinnedTarget}
    (accepted : vetLiteral ip port false = .ok target) :
    ∀ addr ∈ target.addrs, privateAddressReason addr.ip = none := by
  unfold vetLiteral at accepted
  rw [if_neg Bool.false_ne_true] at accepted
  split at accepted
  · cases accepted
  · rename_i no_reason
    cases accepted
    intro addr member
    rw [List.mem_singleton.mp member]
    exact no_reason

theorem vetDomain_public {name : Text} {port : Nat} {target : PinnedTarget}
    (accepted : vetDomain outside name port false = .ok target) :
    ∀ addr ∈ target.addrs, privateAddressReason addr.ip = none := by
  unfold vetDomain at accepted
  split at accepted
  · cases accepted
  · dsimp only at accepted
    split at accepted
    · cases accepted
    · split at accepted
      · cases accepted
      · rw [if_neg Bool.false_ne_true] at accepted
        split at accepted
        · cases accepted
        · rename_i none_found
          cases accepted
          exact List.findSome?_eq_none_iff.mp none_found

/-- Without the opt-in every address that may be connected to is a public one. -/
theorem vetHttpTarget_public {raw : Text} {target : PinnedTarget}
    (accepted : vetHttpTarget outside raw false = .ok target) :
    ∀ addr ∈ target.addrs, privateAddressReason addr.ip = none := by
  obtain ⟨url, -, accepted⟩ := bind_ok accepted
  dsimp only at accepted
  split at accepted
  · cases accepted
  · exact vetLiteral_public accepted
  · exact vetLiteral_public accepted
  · exact vetDomain_public accepted

/-- Which carried addresses are refused, for every private one; and what is pinned. -/
theorem embedded_refused_iff (a : Ipv4Addr) (embedding : Embedding) (ip : Ipv6Addr) :
    ((v4Reason a).isSome = true → embedding.read ip = some a →
      ((privateAddressReason (.v6 ip)).isSome = true ↔
        embedding = .mapped ∨ embedding = .compatible ∧ (a = ⟨0, 0, 0, 0⟩ ∨ a = ⟨0, 0, 0, 1⟩))) ∧
    ∀ (outside : Outside) (raw : Text) (target : PinnedTarget),
      vetHttpTarget outside raw false = .ok target →
        ∀ addr ∈ target.addrs, privateAddressReason addr.ip = none := by
  refine ⟨?_, fun _ _ _ => vetHttpTarget_public⟩
  intro reason carries
  cases embedding with
  | mapped => exact ⟨fun _ => .inl rfl, fun _ => mapped_refused carries reason⟩
  | compatible =>
    rw [compatible_refused_iff carries]
    simp
  | nat64 =>
    rw [nat64_allowed carries]
    simp
  | sixToFour =>
    rw [sixToFour_allowed carries]
    simp

/-- `::ffff:127.0.0.1` is refused. -/
theorem mapped_loopback : (privateAddressReason (.v6 ⟨0, 0, 0, 0, 0, 0xffff, 0x7f00, 1⟩)).isSome =
      true ↔
    Embedding.mapped = .mapped ∨ Embedding.mapped = .compatible ∧
      ((⟨127, 0, 0, 1⟩ : Ipv4Addr) = ⟨0, 0, 0, 0⟩ ∨ (⟨127, 0, 0, 1⟩ : Ipv4Addr) = ⟨0, 0, 0, 1⟩) :=
  (embedded_refused_iff ⟨127, 0, 0, 1⟩ .mapped _).1 (by decide) (by decide)

/-- `64:ff9b::169.254.169.254` is the metadata address behind a translator, and is allowed. -/
theorem metadata_reachable : ¬((∀ (a : Ipv4Addr) (embedding : Embedding) (ip : Ipv6Addr),
      (v4Reason a).isSome = true → embedding.read ip = some a →
        (privateAddressReason (.v6 ip)).isSome = true) ∧
    ∀ (outside : Outside) (raw : Text) (target : PinnedTarget),
      vetHttpTarget outside raw false = .ok target →
        ∀ addr ∈ target.addrs, privateAddressReason addr.ip = none) := by
  rintro ⟨refused, -⟩
  have other := refused ⟨169, 254, 169, 254⟩ .nat64
    ⟨0x64, 0xff9b, 0, 0, 0, 0, 0xa9fe, 0xa9fe⟩ (by decide) (by decide)
  exact absurd other (by decide)

end Vetting

end DbFree.Workflows.Policy
