import Reliastra.Source.Core.IpNetworks

/-!
# Which addresses the SSRF guard admits

The guard should admit public addresses only. Its list has the private-use, loopback
and link-local networks of both families; it lacks the unspecified addresses, and the
embedding of IPv4 into IPv6, through which every address of the list can be written
once more. Whatever `resolve_pinned_target` accepts, `is_url_safe` has accepted.
-/

namespace Reliastra.Guarantees

open Reliastra.Source SsrfProtection

/-! ## Addresses that are not public -/

/-- RFC 1918. -/
def PrivateV4 (a : Nat) : Prop :=
  (dotted 10 0 0 0 ≤ a ∧ a ≤ dotted 10 255 255 255) ∨
    (dotted 172 16 0 0 ≤ a ∧ a ≤ dotted 172 31 255 255) ∨
    (dotted 192 168 0 0 ≤ a ∧ a ≤ dotted 192 168 255 255)

def LoopbackV4 (a : Nat) : Prop := dotted 127 0 0 0 ≤ a ∧ a ≤ dotted 127 255 255 255

/-- RFC 3927. -/
def LinkLocalV4 (a : Nat) : Prop := dotted 169 254 0 0 ≤ a ∧ a ≤ dotted 169 254 255 255

/-- The addresses of the host and of its networks, in IPv4. -/
def InternalV4 (a : Nat) : Prop := PrivateV4 a ∨ LoopbackV4 a ∨ LinkLocalV4 a ∨ a = 0

/-- `::ffff:a.b.c.d`. -/
def mappedV6 (a : Nat) : Nat := 0xffff * 2 ^ 32 + a

/-- Unique local and link-local addresses, and `::1`. -/
def LocalV6 (a : Nat) : Prop :=
  a = 1 ∨ (leadingGroup 0xfc00 ≤ a ∧ a < leadingGroup 0xfe00) ∨
    (leadingGroup 0xfe80 ≤ a ∧ a < leadingGroup 0xfec0)

/-- Private, loopback, link-local or unspecified, also behind the IPv4 mapping. -/
def Internal : IpAddress → Prop
  | .v4 bits => InternalV4 bits.val
  | .v6 bits =>
    LocalV6 bits.val ∨ bits.val = 0 ∨ ∃ a < 2 ^ 32, bits.val = mappedV6 a ∧ InternalV4 a

/-- The internal addresses that are in no network of the list. -/
def Unlisted : IpAddress → Prop
  | .v4 bits => bits.val = 0
  | .v6 bits => bits.val = 0 ∨ ∃ a < 2 ^ 32, bits.val = mappedV6 a ∧ InternalV4 a

/-! ## The list, network by network -/

theorem contains_v4_iff (network prefixLength size : Nat) (bits : Fin (2 ^ 32))
    (inWidth : prefixLength ≤ 32) (hosts : size = 2 ^ (32 - prefixLength))
    (aligned : network % size = 0) :
    (IpNetwork.v4 network prefixLength).Contains (.v4 bits) ↔
      network ≤ bits.val ∧ bits.val < network + size :=
  land_netmask_eq_iff inWidth bits.isLt hosts aligned

theorem contains_v6_iff (network prefixLength size : Nat) (bits : Fin (2 ^ 128))
    (inWidth : prefixLength ≤ 128) (hosts : size = 2 ^ (128 - prefixLength))
    (aligned : network % size = 0) :
    (IpNetwork.v6 network prefixLength).Contains (.v6 bits) ↔
      network ≤ bits.val ∧ bits.val < network + size :=
  land_netmask_eq_iff inWidth bits.isLt hosts aligned

/-- The networks of the address's version, one after the other. -/
theorem inBlockedNetwork_iff (address : IpAddress) :
    InBlockedNetwork address ↔
      (IpNetwork.v4 (dotted 10 0 0 0) 8).Contains address ∨
      (IpNetwork.v4 (dotted 172 16 0 0) 12).Contains address ∨
      (IpNetwork.v4 (dotted 192 168 0 0) 16).Contains address ∨
      (IpNetwork.v4 (dotted 127 0 0 0) 8).Contains address ∨
      (IpNetwork.v4 (dotted 169 254 0 0) 16).Contains address ∨
      (IpNetwork.v6 1 128).Contains address ∨
      (IpNetwork.v6 (leadingGroup 0xfc00) 7).Contains address ∨
      (IpNetwork.v6 (leadingGroup 0xfe80) 10).Contains address := by
  simp only [InBlockedNetwork, blockedNetworks, List.mem_cons, List.not_mem_nil, or_false,
    exists_eq_or_imp, exists_eq_left]

theorem inBlockedNetwork_v4_iff (bits : Fin (2 ^ 32)) :
    InBlockedNetwork (.v4 bits) ↔
      PrivateV4 bits.val ∨ LoopbackV4 bits.val ∨ LinkLocalV4 bits.val := by
  have other (network prefixLength : Nat) :
      ¬ (IpNetwork.v6 network prefixLength).Contains (.v4 bits) := id
  rw [inBlockedNetwork_iff,
    contains_v4_iff (dotted 10 0 0 0) 8 (2 ^ 24) bits (by decide) rfl (by decide),
    contains_v4_iff (dotted 172 16 0 0) 12 (2 ^ 20) bits (by decide) rfl (by decide),
    contains_v4_iff (dotted 192 168 0 0) 16 (2 ^ 16) bits (by decide) rfl (by decide),
    contains_v4_iff (dotted 127 0 0 0) 8 (2 ^ 24) bits (by decide) rfl (by decide),
    contains_v4_iff (dotted 169 254 0 0) 16 (2 ^ 16) bits (by decide) rfl (by decide)]
  simp only [other, or_false, PrivateV4, LoopbackV4, LinkLocalV4, dotted]
  omega

theorem inBlockedNetwork_v6_iff (bits : Fin (2 ^ 128)) :
    InBlockedNetwork (.v6 bits) ↔ LocalV6 bits.val := by
  have other (network prefixLength : Nat) :
      ¬ (IpNetwork.v4 network prefixLength).Contains (.v6 bits) := id
  rw [inBlockedNetwork_iff,
    contains_v6_iff 1 128 1 bits (by decide) rfl (by decide),
    contains_v6_iff (leadingGroup 0xfc00) 7 (2 ^ 121) bits (by decide) rfl (by decide),
    contains_v6_iff (leadingGroup 0xfe80) 10 (2 ^ 118) bits (by decide) rfl (by decide)]
  simp only [other, false_or, LocalV6, leadingGroup]
  omega

theorem internal_iff (address : IpAddress) :
    Internal address ↔ InBlockedNetwork address ∨ Unlisted address := by
  cases address with
  | v4 bits =>
    rw [inBlockedNetwork_v4_iff]
    simp only [Internal, InternalV4, Unlisted, or_assoc]
  | v6 bits =>
    rw [inBlockedNetwork_v6_iff]
    rfl

/-! ## The guard -/

section Guard

variable (lib : AddressLibrary) (resolve pin : Resolver) (url : String)

/-- No address of the list meets the condition; a text that is no address is none. -/
def NoneOf (condition : IpAddress → Prop) (addresses : List String) : Prop :=
  ∀ text ∈ addresses, ∀ address, lib.ipAddress text = .ok address → ¬ condition address

/-- Where `is_url_safe` accepts, no address of the host is internal; where
`resolve_pinned_target` accepts, none of the pinned ones is, and `is_url_safe` accepts. -/
def AdmitsPublicOnly : Prop :=
  (isUrlSafe lib.guard resolve url = .ok none →
    ∀ parsed addresses, lib.urlparse url = .ok parsed →
      resolve (parsed.hostname.getD "") = .ok addresses → NoneOf lib Internal addresses) ∧
  ∀ target, resolvePinnedTarget lib.guard resolve pin url = .ok target →
    NoneOf lib Internal target.ips ∧ isUrlSafe lib.guard resolve url = .ok none

variable {lib resolve pin url}

/-- Addresses in no blocked network are internal only where the list has a gap. -/
theorem noneOf_internal_iff {addresses : List String}
    (unblocked : ∀ text ∈ addresses, ∀ address, lib.ipAddress text = .ok address →
      ¬ InBlockedNetwork address) :
    NoneOf lib Internal addresses ↔ NoneOf lib Unlisted addresses := by
  unfold NoneOf
  refine forall₂_congr (fun text member => forall₂_congr (fun address read => ?_))
  rw [internal_iff, not_or, and_iff_right (unblocked text member address read)]

theorem unblocked_of_first {addresses : List String}
    (first : firstBlocked lib.guard addresses = none) :
    ∀ text ∈ addresses, ∀ address, lib.ipAddress text = .ok address →
      ¬ InBlockedNetwork address := by
  intro text member address read blocked
  have passed := List.find?_eq_none.mp first text member
  simp [AddressLibrary.guard, read, Except.map, blocked] at passed

theorem unblocked_of_pins {addresses : List String}
    (free : ∀ text ∈ addresses, lib.guard.inBlockedNetwork text = .ok false) :
    ∀ text ∈ addresses, ∀ address, lib.ipAddress text = .ok address →
      ¬ InBlockedNetwork address := by
  intro text member address read blocked
  have passed := free text member
  simp [AddressLibrary.guard, read, Except.map, blocked] at passed

theorem admits_public_only_iff (lib : AddressLibrary) (resolve pin : Resolver) (url : String) :
    AdmitsPublicOnly lib resolve pin url ↔
      ∀ parsed hostname addresses, Resolves lib.guard resolve url parsed hostname addresses →
        NoneOf lib Unlisted addresses ∧
          ∀ ips, Pins lib.guard pin parsed hostname ips → NoneOf lib Unlisted ips := by
  constructor
  · intro ⟨checked, pinned⟩ parsed hostname addresses resolves
    have safe := isUrlSafe_eq_ok_none_iff.mpr ⟨parsed, hostname, addresses, resolves⟩
    constructor
    · rw [← noneOf_internal_iff (unblocked_of_first resolves.unblocked)]
      apply checked safe parsed addresses resolves.parses
      rw [resolves.hostname_getD]
      exact resolves.answered
    · intro ips pins
      obtain ⟨target, accepted, rfl⟩ :=
        resolvePinnedTarget_ok_iff.mpr ⟨parsed, hostname, addresses, resolves, pins⟩
      rw [← noneOf_internal_iff (unblocked_of_pins pins.unblocked)]
      exact (pinned target accepted).1
  · intro free
    constructor
    · intro safe parsed addresses parses answered
      obtain ⟨parsed', hostname, addresses', resolves⟩ := isUrlSafe_eq_ok_none_iff.mp safe
      have sameUrl : parsed' = parsed := Except.ok.inj (resolves.parses.symm.trans parses)
      subst sameUrl
      rw [resolves.hostname_getD] at answered
      have sameAnswer : addresses' = addresses := Except.ok.inj (resolves.answered.symm.trans answered)
      subst sameAnswer
      rw [noneOf_internal_iff (unblocked_of_first resolves.unblocked)]
      exact (free parsed' hostname addresses' resolves).1
    · intro target accepted
      obtain ⟨parsed, hostname, addresses, resolves, pins⟩ :=
        resolvePinnedTarget_ok_iff.mp ⟨target, accepted, rfl⟩
      refine ⟨?_, isUrlSafe_eq_ok_none_iff.mpr ⟨parsed, hostname, addresses, resolves⟩⟩
      rw [noneOf_internal_iff (unblocked_of_pins pins.unblocked)]
      exact (free parsed hostname addresses resolves).2 target.ips pins

/-- A library that reads one URL, and the addresses of its host. -/
def hookLibrary : AddressLibrary where
  urlparse url :=
    if url = "https://hooks.example/in" then .ok ⟨"https", some "hooks.example", .ok none⟩
    else .error "Invalid URL"
  urljoin _ reference := .ok reference
  ipAddress text :=
    if text = "0.0.0.0" then .ok (.v4 0)
    else if text = "::ffff:169.254.169.254" then .ok (.v6 0xffffa9fea9fe)
    else .error (text ++ " does not appear to be an IPv4 or IPv6 address")

/-- The host of the URL resolves to the unspecified address, or to the metadata address
of a cloud behind the IPv4 mapping. -/
theorem admits_public_only_not_always :
    ¬ AdmitsPublicOnly hookLibrary (fun _ => .ok ["0.0.0.0"]) (fun _ => .ok ["0.0.0.0"])
      "https://hooks.example/in" ∧
    ¬ AdmitsPublicOnly hookLibrary (fun _ => .ok ["::ffff:169.254.169.254"])
      (fun _ => .ok ["::ffff:169.254.169.254"]) "https://hooks.example/in" := by
  constructor
  · intro admits
    have accepted : resolvePinnedTarget hookLibrary.guard (fun _ => .ok ["0.0.0.0"])
        (fun _ => .ok ["0.0.0.0"]) "https://hooks.example/in" =
          .ok ⟨"https://hooks.example/in", "hooks.example", 443, ["0.0.0.0"]⟩ := by decide
    exact (admits.2 _ accepted).1 "0.0.0.0" (by simp) (.v4 0) rfl (.inr (.inr (.inr rfl)))
  · intro admits
    have accepted : resolvePinnedTarget hookLibrary.guard (fun _ => .ok ["::ffff:169.254.169.254"])
        (fun _ => .ok ["::ffff:169.254.169.254"]) "https://hooks.example/in" =
          .ok ⟨"https://hooks.example/in", "hooks.example", 443, ["::ffff:169.254.169.254"]⟩ := by
      decide
    have linkLocal : InternalV4 (dotted 169 254 169 254) :=
      .inr (.inr (.inl ⟨by decide, by decide⟩))
    exact (admits.2 _ accepted).1 "::ffff:169.254.169.254" (by simp) (.v6 0xffffa9fea9fe) rfl
      (.inr (.inr ⟨dotted 169 254 169 254, by decide, by decide, linkLocal⟩))

end Guard

end Reliastra.Guarantees
