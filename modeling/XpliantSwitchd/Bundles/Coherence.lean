import XpliantSwitchd.Bundles.VlanConfig

/-!
# Coherence of bundles and VLAN memberships

A bundle owns an interface: its LAG, or the port it is named after.  Coherence
says that no two bundles own the same interface, that the owner of an interface
and its trunks account for the memberships of the interface, and that the
default VLAN has ports besides.  It is stated for a list of bundles in any
order, so each lemma about a change may take the bundle it changes to be the
first one.
-/

namespace XpliantSwitchd
namespace Bundles

open Vlans

variable {count : Nat}

/-- The interface ids of the ports. -/
def Bridge.portIntfs (bridge : Bridge) : List Nat := bridge.ports.map (·.ifId)

/-- Different ports have different interface ids, where these are valid. -/
def Bridge.IntfsDistinct (bridge : Bridge) : Prop :=
  ∀ port ∈ bridge.ports, ∀ other ∈ bridge.ports,
    port.ifId = other.ifId → port.ifId ≠ bridge.intfInvalidId → port = other

/-- How bundles own interfaces. -/
structure Owned (bridge : Bridge) (bundles : List (Bundle count)) : Prop where
  idsNodup : (bundles.map (·.id)).Nodup
  namesNodup : (bundles.map (·.name)).Nodup
  lagBound : ∀ bundle ∈ bundles, bundle.isLag = true →
    bundle.intfId ≠ bridge.intfInvalidId ∧ bundle.intfId ∉ bridge.portIntfs
  portBound : ∀ bundle ∈ bundles, bundle.isLag = false →
    bundle.intfId ≠ bridge.intfInvalidId →
      ∃ port ∈ bridge.ports, port.name = bundle.name ∧ port.ifId = bundle.intfId
  lagsDistinct : ∀ bundle ∈ bundles, ∀ other ∈ bundles,
    bundle.isLag = true → other.isLag = true → bundle.intfId = other.intfId →
      bundle = other

/-- How the bundles account for the memberships.  The default VLAN may be left
out of what trunks promise, together with what is known of destroyed LAGs. -/
structure Coherent (bridge : Bridge) (tracked : Prop) (bundles : List (Bundle count))
    (members : VlanRoster) (destroyedLags : List Nat) : Prop where
  owned : Owned bridge bundles
  unbound : ∀ bundle ∈ bundles, bundle.intfId = bridge.intfInvalidId →
    ∀ vid, bundle.isTrunked vid = false
  vlanKnown : ∀ bundle ∈ bundles, bundle.trunks ≠ none →
    bundle.vlan = (bundle.oldVlan : Int)
  present : ∀ bundle ∈ bundles, ∀ vid, members.exist vid = true →
    bundle.isTrunked vid = true → (vid = defaultVlanId → tracked) →
      members.label vid bundle.intfId ≠ none
  justified : ∀ vid intfId, members.label vid intfId ≠ none →
    (∃ bundle ∈ bundles, bundle.intfId = intfId ∧ bundle.isTrunked vid = true) ∨
      (vid = defaultVlanId ∧ intfId ∈ bridge.portIntfs)
  encap : ∀ bundle ∈ bundles, ∀ vid, vid ≠ defaultVlanId → ∀ encapType,
    members.label vid bundle.intfId = some encapType →
      bundle.intfId ≠ bridge.intfInvalidId → encapType = bundle.encapType vid
  destroyed : tracked → ∀ lagId ∈ destroyedLags, lagId ≠ bridge.intfInvalidId ∧
    lagId ∉ bridge.portIntfs ∧ ∀ bundle ∈ bundles, bundle.intfId ≠ lagId

namespace Owned

variable {bridge : Bridge} {bundles rest : List (Bundle count)}
  {bundle other : Bundle count}

theorem perm
    {others : List (Bundle count)}
    (owned : Owned bridge bundles)
    (same : bundles.Perm others) :
    Owned bridge others where
  idsNodup := (same.map _).nodup_iff.mp owned.idsNodup
  namesNodup := (same.map _).nodup_iff.mp owned.namesNodup
  lagBound bundle member := owned.lagBound bundle (same.mem_iff.mpr member)
  portBound bundle member := owned.portBound bundle (same.mem_iff.mpr member)
  lagsDistinct bundle member other otherMember :=
    owned.lagsDistinct bundle (same.mem_iff.mpr member) other
      (same.mem_iff.mpr otherMember)

/-- An interface has one owner. -/
theorem eq_of_intfId
    (owned : Owned bridge bundles)
    (distinct : bridge.IntfsDistinct)
    (member : bundle ∈ bundles)
    (otherMember : other ∈ bundles)
    (sameIntf : bundle.intfId = other.intfId)
    (valid : bundle.intfId ≠ bridge.intfInvalidId) :
    bundle = other := by
  cases isLag : bundle.isLag with
  | true =>
      cases otherLag : other.isLag with
      | true =>
          exact owned.lagsDistinct bundle member other otherMember isLag otherLag
            sameIntf
      | false =>
          obtain ⟨port, portMember, _, portIntf⟩ :=
            owned.portBound other otherMember otherLag (sameIntf ▸ valid)
          have fresh := (owned.lagBound bundle member isLag).2
          rw [sameIntf, ← portIntf] at fresh
          exact absurd (List.mem_map_of_mem portMember) fresh
  | false =>
      obtain ⟨port, portMember, portName, portIntf⟩ :=
        owned.portBound bundle member isLag valid
      cases otherLag : other.isLag with
      | true =>
          have fresh := (owned.lagBound other otherMember otherLag).2
          rw [← sameIntf, ← portIntf] at fresh
          exact absurd (List.mem_map_of_mem portMember) fresh
      | false =>
          obtain ⟨peer, peerMember, peerName, peerIntf⟩ :=
            owned.portBound other otherMember otherLag (sameIntf ▸ valid)
          have samePort := distinct port portMember peer peerMember
            (portIntf.trans (sameIntf.trans peerIntf.symm)) (portIntf ▸ valid)
          have sameName : bundle.name = other.name := by
            rw [← portName, ← peerName, samePort]
          exact List.inj_on_of_nodup_map owned.namesNodup member otherMember sameName

/-- The owner of an interface, seen from the others. -/
theorem ne_head
    (owned : Owned bridge (bundle :: rest))
    (distinct : bridge.IntfsDistinct)
    (valid : bundle.intfId ≠ bridge.intfInvalidId)
    (member : other ∈ rest) :
    other.intfId ≠ bundle.intfId := by
  intro sameIntf
  have equal := owned.eq_of_intfId distinct List.mem_cons_self
    (List.mem_cons_of_mem _ member) sameIntf.symm valid
  have fresh := (List.nodup_cons.mp owned.idsNodup).1
  exact fresh (equal ▸ List.mem_map_of_mem member)

theorem tail (owned : Owned bridge (bundle :: rest)) : Owned bridge rest where
  idsNodup := (List.nodup_cons.mp owned.idsNodup).2
  namesNodup := (List.nodup_cons.mp owned.namesNodup).2
  lagBound bundle member := owned.lagBound bundle (List.mem_cons_of_mem _ member)
  portBound bundle member := owned.portBound bundle (List.mem_cons_of_mem _ member)
  lagsDistinct bundle member other otherMember :=
    owned.lagsDistinct bundle (List.mem_cons_of_mem _ member) other
      (List.mem_cons_of_mem _ otherMember)

/-- Put a bundle in front of others.  Two LAGs are compared with the new one. -/
theorem cons
    (owned : Owned bridge rest)
    (bundle : Bundle count)
    (freshId : bundle.id ∉ rest.map (·.id))
    (freshName : bundle.name ∉ rest.map (·.name))
    (lagBound : bundle.isLag = true →
      bundle.intfId ≠ bridge.intfInvalidId ∧ bundle.intfId ∉ bridge.portIntfs ∧
        ∀ other ∈ rest, other.intfId ≠ bundle.intfId)
    (portBound : bundle.isLag = false → bundle.intfId ≠ bridge.intfInvalidId →
      ∃ port ∈ bridge.ports, port.name = bundle.name ∧ port.ifId = bundle.intfId) :
    Owned bridge (bundle :: rest) where
  idsNodup := List.nodup_cons.mpr ⟨freshId, owned.idsNodup⟩
  namesNodup := List.nodup_cons.mpr ⟨freshName, owned.namesNodup⟩
  lagBound other member isLag := by
    rcases List.mem_cons.mp member with rfl | inRest
    · exact ⟨(lagBound isLag).1, (lagBound isLag).2.1⟩
    · exact owned.lagBound other inRest isLag
  portBound other member notLag valid := by
    rcases List.mem_cons.mp member with rfl | inRest
    · exact portBound notLag valid
    · exact owned.portBound other inRest notLag valid
  lagsDistinct left leftMember right rightMember leftLag rightLag sameIntf := by
    rcases List.mem_cons.mp leftMember with rfl | leftRest
    · rcases List.mem_cons.mp rightMember with rfl | rightRest
      · rfl
      · exact absurd sameIntf.symm ((lagBound leftLag).2.2 right rightRest)
    · rcases List.mem_cons.mp rightMember with rfl | rightRest
      · exact absurd sameIntf ((lagBound rightLag).2.2 left leftRest)
      · exact owned.lagsDistinct left leftRest right rightRest leftLag rightLag
          sameIntf

end Owned

theorem settingsVlan_lt (env : Env) (s : Settings count) :
    settingsVlan env s < 2 ^ 16 := by
  have defaultSmall : defaultVlanId < 2 ^ 16 := by decide
  unfold settingsVlan
  split
  · exact defaultSmall
  · split
    · unfold xpsVlan
      omega
    · exact defaultSmall

theorem xpsVlan_natCast {vlan : Nat} (small : vlan < 2 ^ 16) :
    xpsVlan (vlan : Int) = vlan := by
  unfold xpsVlan
  omega

@[simp] theorem oldVlan_configured
    (env : Env)
    (bundle : Bundle count)
    (s : Settings count) :
    (bundle.configured env s).oldVlan = settingsVlan env s := by
  have notUnset : ((settingsVlan env s : Nat) : Int) ≠ -1 := by omega
  have vlan : (bundle.configured env s).vlan = (settingsVlan env s : Int) := rfl
  rw [Bundle.oldVlan, vlan, if_pos notUnset, xpsVlan_natCast (settingsVlan_lt env s)]

@[simp] theorem isTrunked_configured
    (env : Env)
    (bundle : Bundle count)
    (s : Settings count)
    (vid : Nat) :
    (bundle.configured env s).isTrunked vid = (settingsTrunks env s).getLsbD vid :=
  rfl

/-- A VLAN that stays in the trunks and is not retagged keeps its tagging. -/
theorem encapType_configured
    {env : Env}
    {bundle : Bundle count}
    {s : Settings count}
    {vid : Nat}
    (vlanKnown : bundle.vlan = (bundle.oldVlan : Int))
    (trunked : bundle.isTrunked vid = true)
    (stays : (settingsTrunks env s).getLsbD vid = true)
    (kept : bundle.retags env s vid = false) :
    (bundle.configured env s).encapType vid = bundle.encapType vid := by
  cases trunks : bundle.trunks with
  | none => simp [Bundle.isTrunked, trunks] at trunked
  | some old =>
      have isOld : old.getLsbD vid = true := by
        simpa [Bundle.isTrunked, trunks] using trunked
      have unchanged : (bundle.oldVlan = settingsVlan env s ∧
          bundle.vlanMode = s.vlanMode) ∨
          (vid ≠ settingsVlan env s ∧ vid ≠ bundle.oldVlan) := by
        by_contra changes
        rw [not_or, not_and_or, not_and_or, not_not, not_not] at changes
        have retags : bundle.retags env s vid = true := by
          simp only [Bundle.retags, trunks, isRetagged, Bool.and_eq_true,
            Bool.or_eq_true, decide_eq_true_eq]
          refine ⟨changes.1, ?_⟩
          rcases changes.2 with same | same
          · exact .inl ⟨same, isOld⟩
          · exact .inr ⟨same, stays⟩
        rw [retags] at kept
        contradiction
      unfold Bundle.encapType Bundle.configured
      simp only
      rcases unchanged with ⟨sameVlan, sameMode⟩ | ⟨notNew, notOld⟩
      · rw [vlanKnown, sameVlan, sameMode]
      · have newTagged : ((settingsVlan env s : Nat) : Int) ≠ vid := by omega
        have oldTagged : bundle.vlan ≠ vid := by
          rw [vlanKnown]
          omega
        rw [if_pos (.inl newTagged), if_pos (.inl oldTagged)]

/-- The labels of an interface in a VLAN before and after its bundle is configured. -/
def Relabelled (env : Env) (bundle : Bundle count) (s : Settings count) (vid : Nat)
    (before after : Option EncapType) : Prop :=
  after =
    let label := if bundle.retags env s vid then none else before
    if (bundle.isTrunked vid && !bundle.retags env s vid) =
        (settingsTrunks env s).getLsbD vid then label
    else participation (bundle.configured env s) vid label

namespace Relabelled

variable {env : Env} {bundle : Bundle count} {s : Settings count} {vid : Nat}
  {before after : Option EncapType}

/-- An interface is in the VLANs that are asked for. -/
theorem ne_none
    (relabelled : Relabelled env bundle s vid before after)
    (asked : (settingsTrunks env s).getLsbD vid = true)
    (labelled : bundle.isTrunked vid = true → before ≠ none) :
    after ≠ none := by
  unfold Relabelled at relabelled
  rw [relabelled]
  simp only [asked]
  cases retags : bundle.retags env s vid with
  | true => simp [participation, asked]
  | false =>
      cases old : bundle.isTrunked vid with
      | true => simpa using labelled old
      | false => simp [participation, asked]

/-- An interface is in a VLAN that is not asked for only where it was before, and
where the bundle did not have the VLAN. -/
theorem asked_or_labelled
    (relabelled : Relabelled env bundle s vid before after)
    (labelled : after ≠ none) :
    (settingsTrunks env s).getLsbD vid = true ∨
      bundle.isTrunked vid = false ∧ before ≠ none := by
  unfold Relabelled at relabelled
  rw [relabelled] at labelled
  cases asked : (settingsTrunks env s).getLsbD vid with
  | true => exact .inl rfl
  | false =>
      simp only [participation, isTrunked_configured, asked] at labelled
      cases retags : bundle.retags env s vid with
      | true => simp [retags] at labelled
      | false =>
          cases old : bundle.isTrunked vid with
          | true => simp [retags, old] at labelled
          | false => exact .inr ⟨rfl, by simpa [retags, old] using labelled⟩

/-- A label is that of the settings, or it is kept in a VLAN that stays. -/
theorem encapType_or_kept
    {encapType : EncapType}
    (relabelled : Relabelled env bundle s vid before (some encapType))
    (unlabelled : bundle.isTrunked vid = false → before = none) :
    encapType = (bundle.configured env s).encapType vid ∨
      bundle.isTrunked vid = true ∧ (settingsTrunks env s).getLsbD vid = true ∧
        bundle.retags env s vid = false ∧ before = some encapType := by
  unfold Relabelled at relabelled
  cases asked : (settingsTrunks env s).getLsbD vid with
  | false =>
      rcases asked_or_labelled relabelled (Option.some_ne_none _) with
        isAsked | ⟨old, labelled⟩
      · rw [asked] at isAsked
        cases isAsked
      · exact absurd (unlabelled old) labelled
  | true =>
      cases retags : bundle.retags env s vid with
      | true => exact .inl (by simpa [retags, asked, participation] using relabelled)
      | false =>
          cases old : bundle.isTrunked vid with
          | true =>
              have same : before = some encapType := by
                simpa [retags, old, asked, eq_comm] using relabelled
              exact .inr ⟨rfl, rfl, rfl, same⟩
          | false =>
              have new : encapType = (bundle.configured env s).encapType vid := by
                simpa [retags, old, asked, participation, unlabelled old] using relabelled
              exact .inl new

end Relabelled

namespace Coherent

variable {bridge : Bridge} {tracked : Prop} {bundles rest : List (Bundle count)}
  {bundle : Bundle count} {members : VlanRoster} {destroyedLags : List Nat}

theorem perm
    {others : List (Bundle count)}
    (coherent : Coherent bridge tracked bundles members destroyedLags)
    (same : bundles.Perm others) :
    Coherent bridge tracked others members destroyedLags where
  owned := coherent.owned.perm same
  unbound bundle member := coherent.unbound bundle (same.mem_iff.mpr member)
  vlanKnown bundle member := coherent.vlanKnown bundle (same.mem_iff.mpr member)
  present bundle member := coherent.present bundle (same.mem_iff.mpr member)
  justified vid intfId labelled := by
    rcases coherent.justified vid intfId labelled with ⟨bundle, member, owns⟩ | port
    · exact .inl ⟨bundle, same.mem_iff.mp member, owns⟩
    · exact .inr port
  encap bundle member := coherent.encap bundle (same.mem_iff.mpr member)
  destroyed track lagId member := by
    obtain ⟨valid, notPort, unowned⟩ := coherent.destroyed track lagId member
    exact ⟨valid, notPort, fun bundle bundleMember =>
      unowned bundle (same.mem_iff.mpr bundleMember)⟩

theorem valid_of_isTrunked
    (coherent : Coherent bridge tracked bundles members destroyedLags)
    (member : bundle ∈ bundles)
    {vid : Nat}
    (trunked : bundle.isTrunked vid = true) :
    bundle.intfId ≠ bridge.intfInvalidId := by
  intro invalid
  rw [coherent.unbound bundle member invalid vid] at trunked
  contradiction

/-- Outside the default VLAN, the owner of an interface has to have the VLAN in
its trunks. -/
theorem isTrunked_of_label
    (coherent : Coherent bridge tracked bundles members destroyedLags)
    (distinct : bridge.IntfsDistinct)
    (member : bundle ∈ bundles)
    (valid : bundle.intfId ≠ bridge.intfInvalidId)
    {vid : Nat}
    (labelled : members.label vid bundle.intfId ≠ none) :
    bundle.isTrunked vid = true ∨
      (vid = defaultVlanId ∧ bundle.intfId ∈ bridge.portIntfs) := by
  rcases coherent.justified vid bundle.intfId labelled with
    ⟨owner, ownerMember, sameIntf, trunked⟩ | port
  · have equal := coherent.owned.eq_of_intfId distinct member ownerMember
      sameIntf.symm valid
    exact .inl (equal ▸ trunked)
  · exact .inr port

/-- A bundle without trunks gets an interface, loses it, or is made. -/
theorem rebind
    {changed : Bundle count}
    {lags : List Nat}
    (coherent : Coherent bridge tracked rest members destroyedLags)
    (distinct : bridge.IntfsDistinct)
    (owned : Owned bridge (changed :: rest))
    (untrunked : ∀ vid, changed.isTrunked vid = false)
    (vlanKnown : changed.trunks ≠ none → changed.vlan = (changed.oldVlan : Int))
    (lagsKnown : tracked → ∀ lagId ∈ lags, lagId ≠ bridge.intfInvalidId ∧
      lagId ∉ bridge.portIntfs ∧ ∀ bundle ∈ changed :: rest, bundle.intfId ≠ lagId) :
    Coherent bridge tracked (changed :: rest) members lags where
  owned := owned
  unbound bundle member invalid vid := by
    rcases List.mem_cons.mp member with rfl | inRest
    · exact untrunked vid
    · exact coherent.unbound bundle inRest invalid vid
  vlanKnown bundle member trunks := by
    rcases List.mem_cons.mp member with rfl | inRest
    · exact vlanKnown trunks
    · exact coherent.vlanKnown bundle inRest trunks
  present bundle member vid present trunked track := by
    rcases List.mem_cons.mp member with rfl | inRest
    · rw [untrunked vid] at trunked
      contradiction
    · exact coherent.present bundle inRest vid present trunked track
  justified vid intfId labelled := by
    rcases coherent.justified vid intfId labelled with ⟨bundle, member, owns⟩ | port
    · exact .inl ⟨bundle, List.mem_cons_of_mem _ member, owns⟩
    · exact .inr port
  encap bundle member vid notDefault encapType label valid := by
    rcases List.mem_cons.mp member with rfl | inRest
    · have labelled : members.label vid bundle.intfId ≠ none := by simp [label]
      rcases coherent.justified vid bundle.intfId labelled with
        ⟨owner, ownerMember, sameIntf, _⟩ | ⟨isDefault, _⟩
      · exact absurd sameIntf (owned.ne_head distinct valid ownerMember)
      · exact absurd isDefault notDefault
    · exact coherent.encap bundle inRest vid notDefault encapType label valid
  destroyed := lagsKnown

/-- A bundle whose trunks are empty accounts for nothing. -/
theorem tail_of_untrunked
    (coherent : Coherent bridge tracked (bundle :: rest) members destroyedLags)
    (untrunked : ∀ vid, bundle.isTrunked vid = false) :
    Coherent bridge tracked rest members destroyedLags where
  owned := coherent.owned.tail
  unbound other member := coherent.unbound other (List.mem_cons_of_mem _ member)
  vlanKnown other member := coherent.vlanKnown other (List.mem_cons_of_mem _ member)
  present other member := coherent.present other (List.mem_cons_of_mem _ member)
  justified vid intfId labelled := by
    rcases coherent.justified vid intfId labelled with
      ⟨owner, ownerMember, owns⟩ | port
    · rcases List.mem_cons.mp ownerMember with rfl | inRest
      · rw [untrunked vid] at owns
        exact absurd owns.2 Bool.false_ne_true
      · exact .inl ⟨owner, inRest, owns⟩
    · exact .inr port
  encap other member := coherent.encap other (List.mem_cons_of_mem _ member)
  destroyed track lagId member := by
    obtain ⟨valid, notPort, unowned⟩ := coherent.destroyed track lagId member
    exact ⟨valid, notPort, fun other otherMember =>
      unowned other (List.mem_cons_of_mem _ otherMember)⟩

/-- A bundle is destroyed and its interface leaves every VLAN. -/
theorem drop
    (coherent : Coherent bridge tracked (bundle :: rest) members destroyedLags)
    (distinct : bridge.IntfsDistinct) :
    Coherent bridge tracked rest (members.leaveAll bundle.intfId)
      (if bundle.isLag then bundle.intfId :: destroyedLags else destroyedLags) where
  owned := coherent.owned.tail
  unbound other member := coherent.unbound other (List.mem_cons_of_mem _ member)
  vlanKnown other member := coherent.vlanKnown other (List.mem_cons_of_mem _ member)
  present other member vid present trunked track := by
    have inAll := List.mem_cons_of_mem bundle member
    have otherValid := coherent.valid_of_isTrunked inAll trunked
    have different : other.intfId ≠ bundle.intfId := by
      intro sameIntf
      exact coherent.owned.ne_head distinct (sameIntf ▸ otherValid) member sameIntf
    simp only [Roster.leaveAll, if_neg different]
    exact coherent.present other inAll vid present trunked track
  justified vid intfId labelled := by
    simp only [Roster.leaveAll] at labelled
    split at labelled
    · contradiction
    · rename_i different
      rcases coherent.justified vid intfId labelled with
        ⟨owner, ownerMember, owns⟩ | port
      · rcases List.mem_cons.mp ownerMember with rfl | inRest
        · exact absurd owns.1.symm different
        · exact .inl ⟨owner, inRest, owns⟩
      · exact .inr port
  encap other member vid notDefault encapType label valid := by
    simp only [Roster.leaveAll] at label
    split at label
    · contradiction
    · exact coherent.encap other (List.mem_cons_of_mem _ member) vid notDefault
        encapType label valid
  destroyed track lagId member := by
    have older : lagId ∈ destroyedLags → lagId ≠ bridge.intfInvalidId ∧
        lagId ∉ bridge.portIntfs ∧ ∀ other ∈ rest, other.intfId ≠ lagId := by
      intro known
      obtain ⟨valid, notPort, unowned⟩ := coherent.destroyed track lagId known
      exact ⟨valid, notPort, fun other otherMember =>
        unowned other (List.mem_cons_of_mem _ otherMember)⟩
    split at member
    · rename_i isLag
      rcases List.mem_cons.mp member with rfl | known
      · obtain ⟨valid, notPort⟩ :=
          coherent.owned.lagBound bundle List.mem_cons_self isLag
        exact ⟨valid, notPort, fun other otherMember =>
          coherent.owned.ne_head distinct valid otherMember⟩
      · exact older known
    · exact older member

/-- The membership of a port in the default VLAN changes. -/
theorem portDefault
    {after : VlanRoster}
    {intfId : Nat}
    (coherent : Coherent bridge tracked bundles members destroyedLags)
    (isPort : intfId ∈ bridge.portIntfs)
    (exist : after.exist = members.exist)
    (others : ∀ vid peer, vid ≠ defaultVlanId ∨ peer ≠ intfId →
      after.label vid peer = members.label vid peer)
    (kept : tracked → ∀ bundle ∈ bundles, bundle.intfId = intfId →
      bundle.isTrunked defaultVlanId = true → members.label defaultVlanId intfId ≠ none →
        after.label defaultVlanId intfId ≠ none) :
    Coherent bridge tracked bundles after destroyedLags where
  owned := coherent.owned
  unbound := coherent.unbound
  vlanKnown := coherent.vlanKnown
  present bundle member vid present trunked track := by
    rw [exist] at present
    have before := coherent.present bundle member vid present trunked track
    by_cases affected : vid = defaultVlanId ∧ bundle.intfId = intfId
    · obtain ⟨rfl, rfl⟩ := affected
      exact kept (track rfl) bundle member rfl trunked before
    · rw [others vid bundle.intfId (not_and_or.mp affected)]
      exact before
  justified vid peer labelled := by
    by_cases affected : vid = defaultVlanId ∧ peer = intfId
    · obtain ⟨rfl, rfl⟩ := affected
      exact .inr ⟨rfl, isPort⟩
    · rw [others vid peer (not_and_or.mp affected)] at labelled
      exact coherent.justified vid peer labelled
  encap bundle member vid notDefault encapType label valid := by
    rw [others vid bundle.intfId (.inl notDefault)] at label
    exact coherent.encap bundle member vid notDefault encapType label valid
  destroyed := coherent.destroyed

/-- The VLAN configuration of a bundle is updated. -/
theorem configure
    {after : VlanRoster}
    {s : Settings count}
    (coherent : Coherent bridge tracked (bundle :: rest) members destroyedLags)
    (distinct : bridge.IntfsDistinct)
    (valid : bundle.intfId ≠ bridge.intfInvalidId)
    (only : OnlyIntf bundle.intfId members after)
    (labels : ∀ vid, members.exist vid = true →
      after.label vid bundle.intfId =
        let label :=
          if bundle.retags bridge.toEnv s vid then none
          else members.label vid bundle.intfId
        if (bundle.isTrunked vid && !bundle.retags bridge.toEnv s vid) =
            (settingsTrunks bridge.toEnv s).getLsbD vid then label
        else participation (bundle.configured bridge.toEnv s) vid label) :
    Coherent bridge tracked (bundle.configured bridge.toEnv s :: rest) after
      destroyedLags := by
  have head : bundle ∈ bundle :: rest := List.mem_cons_self
  have different : ∀ other ∈ rest, other.intfId ≠ bundle.intfId :=
    fun other member => coherent.owned.ne_head distinct valid member
  have existing : ∀ vid, after.label vid bundle.intfId ≠ none →
      members.exist vid = true := by
    intro vid labelled
    rw [← only.exist]
    exact Roster.exist_of_label (Option.isSome_iff_ne_none.mpr labelled)
  have relabelled : ∀ vid, members.exist vid = true → Relabelled bridge.toEnv bundle s vid
      (members.label vid bundle.intfId) (after.label vid bundle.intfId) := labels
  have owned : Owned bridge (bundle.configured bridge.toEnv s :: rest) := by
    obtain ⟨freshId, _⟩ := List.nodup_cons.mp coherent.owned.idsNodup
    obtain ⟨freshName, _⟩ := List.nodup_cons.mp coherent.owned.namesNodup
    refine coherent.owned.tail.cons _ freshId freshName ?_ ?_
    · intro isLag
      obtain ⟨valid, notPort⟩ := coherent.owned.lagBound bundle head isLag
      exact ⟨valid, notPort, different⟩
    · exact coherent.owned.portBound bundle head
  refine ⟨owned, ?_, ?_, ?_, ?_, ?_, ?_⟩
  · intro other member invalid vid
    rcases List.mem_cons.mp member with rfl | inRest
    · exact absurd invalid valid
    · exact coherent.unbound other (List.mem_cons_of_mem _ inRest) invalid vid
  · intro other member trunks
    rcases List.mem_cons.mp member with rfl | inRest
    · rw [oldVlan_configured]
      rfl
    · exact coherent.vlanKnown other (List.mem_cons_of_mem _ inRest) trunks
  · intro other member vid present trunked track
    rw [only.exist] at present
    rcases List.mem_cons.mp member with rfl | inRest
    · exact (relabelled vid present).ne_none trunked fun old =>
        coherent.present bundle head vid present old track
    · rw [only.others vid other.intfId (different other inRest)]
      exact coherent.present other (List.mem_cons_of_mem _ inRest) vid present
        trunked track
  · intro vid intfId labelled
    by_cases same : intfId = bundle.intfId
    · subst same
      rcases (relabelled vid (existing vid labelled)).asked_or_labelled labelled with
        asked | ⟨untrunked, wasLabelled⟩
      · exact .inl ⟨_, List.mem_cons_self, rfl, asked⟩
      · rcases coherent.isTrunked_of_label distinct head valid wasLabelled with
          trunked | port
        · rw [untrunked] at trunked
          contradiction
        · exact .inr port
    · rw [only.others vid intfId same] at labelled
      rcases coherent.justified vid intfId labelled with
        ⟨owner, ownerMember, owns⟩ | port
      · rcases List.mem_cons.mp ownerMember with rfl | inRest
        · exact absurd owns.1.symm same
        · exact .inl ⟨owner, List.mem_cons_of_mem _ inRest, owns⟩
      · exact .inr port
  · intro other member vid notDefault encapType label otherValid
    rcases List.mem_cons.mp member with rfl | inRest
    · change after.label vid bundle.intfId = some encapType at label
      have present := existing vid (by simp [label])
      have absent : bundle.isTrunked vid = false →
          members.label vid bundle.intfId = none := by
        intro old
        by_contra labelled
        rcases coherent.isTrunked_of_label distinct head valid labelled with
          isOld | ⟨isDefault, _⟩
        · rw [old] at isOld
          contradiction
        · exact notDefault isDefault
      have own := relabelled vid present
      rw [label] at own
      rcases own.encapType_or_kept absent with asked | ⟨old, stays, kept, same⟩
      · exact asked
      · have trunks : bundle.trunks ≠ none := by
          intro none
          simp [Bundle.isTrunked, none] at old
        rw [encapType_configured (coherent.vlanKnown bundle head trunks) old stays kept]
        exact coherent.encap bundle head vid notDefault encapType same valid
    · rw [only.others vid other.intfId (different other inRest)] at label
      exact coherent.encap other (List.mem_cons_of_mem _ inRest) vid notDefault
        encapType label otherValid
  · intro track lagId member
    obtain ⟨lagValid, notPort, unowned⟩ := coherent.destroyed track lagId member
    refine ⟨lagValid, notPort, ?_⟩
    intro other otherMember
    rcases List.mem_cons.mp otherMember with rfl | inRest
    · exact unowned bundle head
    · exact unowned other (List.mem_cons_of_mem _ inRest)

end Coherent

/-! ## Creating and removing a VLAN -/

/-- A bundle owns the interface and has the VLAN in its trunks. -/
def Bundle.claims (vid intfId : Nat) (bundle : Bundle count) : Bool :=
  bundle.intfId == intfId && bundle.isTrunked vid

/-- The loop of `ofproto_xpliant_set_vlan` over a VLAN that exists: an interface
that is no member yet joins as the first bundle that claims it says. -/
theorem addTrunked_spec
    {env : Env}
    {xdk : Xdk}
    {dev : Dev}
    {members : VlanRoster}
    {vid : Nat}
    (represents : Represents env dev members)
    (accepts : xdk.Accepts)
    (exist : members.exist vid = true)
    (bundles : List (Bundle count)) :
    ∃ dev' after,
      addTrunked env xdk vid bundles dev = (none, dev') ∧
      Represents env dev' after ∧ after.exist = members.exist ∧
      (∀ other intfId, other ≠ vid →
        after.label other intfId = members.label other intfId) ∧
      ∀ intfId, after.label vid intfId =
        (members.label vid intfId).or
          ((bundles.find? (Bundle.claims vid intfId)).map (·.encapType vid)) := by
  induction bundles generalizing dev members with
  | nil => exact ⟨dev, members, rfl, represents, rfl, fun _ _ _ => rfl, by simp⟩
  | cons bundle bundles inductionHypothesis =>
      unfold addTrunked
      cases trunked : bundle.isTrunked vid with
      | false =>
          obtain ⟨dev', after, equation, holds, sameExist, elsewhere, labels⟩ :=
            inductionHypothesis represents exist
          refine ⟨dev', after, equation, holds, sameExist, elsewhere, ?_⟩
          intro intfId
          rw [labels, List.find?_cons]
          simp [Bundle.claims, trunked]
      | true =>
          obtain ⟨joined, code⟩ := represents.memberAdd accepts vid bundle.intfId
            (bundle.encapType vid)
          rw [exist, if_pos rfl] at code
          rw [if_pos rfl, show vlanMemberAdd env xdk dev vid bundle.intfId
            (bundle.encapType vid) = (none, _) from Prod.ext code rfl]
          obtain ⟨dev', after, equation, holds, sameExist, elsewhere, labels⟩ :=
            inductionHypothesis joined exist
          refine ⟨dev', after, equation, holds, sameExist, ?_, ?_⟩
          · intro other intfId different
            rw [elsewhere other intfId different,
              Roster.join_label_of_ne (.inl different)]
          · intro intfId
            rw [labels, List.find?_cons]
            by_cases same : intfId = bundle.intfId
            · subst same
              rw [Roster.join_label_self exist]
              cases members.label vid bundle.intfId <;>
                simp [Bundle.claims, trunked]
            · have unclaimed : Bundle.claims vid intfId bundle = false := by
                simp [Bundle.claims, beq_eq_false_iff_ne.mpr (Ne.symm same)]
              rw [Roster.join_label_of_ne (.inr same), unclaimed]

/-- The loop that removes the bundles from a VLAN.  It fails at once when the
VLAN does not exist. -/
theorem removeTrunked_spec
    {env : Env}
    {xdk : Xdk}
    {dev : Dev}
    {members : VlanRoster}
    {vid : Nat}
    (represents : Represents env dev members)
    (accepts : xdk.Accepts)
    (bundles : List (Bundle count)) :
    ∃ errno dev' after,
      removeTrunked env xdk vid bundles dev = (errno, dev') ∧
      Represents env dev' after ∧ after.exist = members.exist ∧
      (∀ other intfId, other ≠ vid →
        after.label other intfId = members.label other intfId) ∧
      (∀ intfId, after.label vid intfId =
        if bundles.any (Bundle.claims vid intfId) then none
        else members.label vid intfId) ∧
      (members.exist vid = true → errno = none) := by
  induction bundles generalizing dev members with
  | nil =>
      exact ⟨none, dev, members, rfl, represents, rfl, fun _ _ _ => rfl, by simp,
        fun _ => rfl⟩
  | cons bundle bundles inductionHypothesis =>
      unfold removeTrunked
      cases trunked : bundle.isTrunked vid with
      | false =>
          obtain ⟨errno, dev', after, equation, holds, sameExist, elsewhere, labels,
            code⟩ := inductionHypothesis represents
          refine ⟨errno, dev', after, equation, holds, sameExist, elsewhere, ?_, code⟩
          intro intfId
          rw [labels]
          simp [Bundle.claims, trunked]
      | true =>
          obtain ⟨left, code⟩ := represents.memberRemove accepts vid bundle.intfId
          rw [if_pos rfl]
          cases exist : members.exist vid with
          | false =>
              rw [exist, if_neg Bool.false_ne_true] at code
              rw [Roster.leave_of_absent (members.closed vid exist _)] at left
              rw [show vlanMemberRemove env xdk dev vid bundle.intfId = (some _, _)
                from Prod.ext code rfl]
              refine ⟨_, _, members, rfl, left, rfl, fun _ _ _ => rfl, ?_, ?_⟩
              · intro intfId
                simp [members.closed vid exist]
              · intro present
                contradiction
          | true =>
              rw [exist, if_pos rfl] at code
              rw [show vlanMemberRemove env xdk dev vid bundle.intfId = (none, _)
                from Prod.ext code rfl]
              obtain ⟨errno, dev', after, equation, holds, sameExist, elsewhere,
                labels, laterCode⟩ := inductionHypothesis left
              refine ⟨errno, dev', after, equation, holds, sameExist, ?_, ?_,
                fun _ => laterCode exist⟩
              · intro other intfId different
                rw [elsewhere other intfId different,
                  Roster.leave_label_of_ne (.inl different)]
              · intro intfId
                rw [labels]
                by_cases same : intfId = bundle.intfId
                · subst same
                  simp [Bundle.claims, trunked]
                · rw [Roster.leave_label_of_ne (.inr same)]
                  simp [Bundle.claims, Ne.symm same]

namespace Coherent

variable {bridge : Bridge} {tracked : Prop} {bundles : List (Bundle count)}
  {members after : VlanRoster} {destroyedLags : List Nat} {vid : Nat}

/-- A change in one VLAN, with the clauses of coherence for that VLAN. -/
theorem inVlan
    (coherent : Coherent bridge tracked bundles members destroyedLags)
    (existElsewhere : ∀ other, other ≠ vid → after.exist other = members.exist other)
    (elsewhere : ∀ other intfId, other ≠ vid →
      after.label other intfId = members.label other intfId)
    (present : ∀ bundle ∈ bundles, after.exist vid = true →
      bundle.isTrunked vid = true → (vid = defaultVlanId → tracked) →
        after.label vid bundle.intfId ≠ none)
    (justified : ∀ intfId, after.label vid intfId ≠ none →
      (∃ bundle ∈ bundles, bundle.intfId = intfId ∧ bundle.isTrunked vid = true) ∨
        (vid = defaultVlanId ∧ intfId ∈ bridge.portIntfs))
    (encap : ∀ bundle ∈ bundles, vid ≠ defaultVlanId → ∀ encapType,
      after.label vid bundle.intfId = some encapType →
        bundle.intfId ≠ bridge.intfInvalidId → encapType = bundle.encapType vid) :
    Coherent bridge tracked bundles after destroyedLags where
  owned := coherent.owned
  unbound := coherent.unbound
  vlanKnown := coherent.vlanKnown
  present bundle member other exist trunked track := by
    by_cases same : other = vid
    · subst same
      exact present bundle member exist trunked track
    · rw [elsewhere other _ same]
      rw [existElsewhere other same] at exist
      exact coherent.present bundle member other exist trunked track
  justified other intfId labelled := by
    by_cases same : other = vid
    · subst same
      exact justified intfId labelled
    · rw [elsewhere other _ same] at labelled
      exact coherent.justified other intfId labelled
  encap bundle member other notDefault encapType label valid := by
    by_cases same : other = vid
    · subst same
      exact encap bundle member notDefault encapType label valid
    · rw [elsewhere other _ same] at label
      exact coherent.encap bundle member other notDefault encapType label valid
  destroyed := coherent.destroyed

/-- The bundles join a VLAN that is new, or the default one. -/
theorem joinTrunked
    {visited : List (Bundle count)}
    (coherent : Coherent bridge tracked bundles members destroyedLags)
    (distinct : bridge.IntfsDistinct)
    (all : ∀ bundle, bundle ∈ visited ↔ bundle ∈ bundles)
    (new : vid ≠ defaultVlanId → ∀ intfId, members.label vid intfId = none)
    (existElsewhere : ∀ other, other ≠ vid → after.exist other = members.exist other)
    (elsewhere : ∀ other intfId, other ≠ vid →
      after.label other intfId = members.label other intfId)
    (labels : ∀ intfId, after.label vid intfId =
      (members.label vid intfId).or
        ((visited.find? (Bundle.claims vid intfId)).map (·.encapType vid))) :
    Coherent bridge tracked bundles after destroyedLags := by
  refine coherent.inVlan existElsewhere elsewhere ?_ ?_ ?_
  · intro bundle member _ trunked _
    rw [labels]
    intro absent
    rw [Option.or_eq_none_iff, Option.map_eq_none_iff, List.find?_eq_none] at absent
    exact absent.2 bundle ((all bundle).mpr member) (by simp [Bundle.claims, trunked])
  · intro intfId labelled
    by_cases known : members.label vid intfId = none
    · rw [labels, known, Option.none_or] at labelled
      obtain ⟨owner, found⟩ : ∃ owner,
          visited.find? (Bundle.claims vid intfId) = some owner := by
        by_contra missing
        rw [not_exists] at missing
        rw [Option.eq_none_iff_forall_ne_some.mpr missing] at labelled
        exact labelled rfl
      have claims := List.find?_some found
      simp only [Bundle.claims, Bool.and_eq_true, beq_iff_eq] at claims
      exact .inl ⟨owner, (all owner).mp (List.mem_of_find?_eq_some found), claims⟩
    · exact coherent.justified vid intfId known
  · intro bundle member notDefault encapType label valid
    rw [labels, new notDefault, Option.none_or] at label
    obtain ⟨owner, found, rfl⟩ := Option.map_eq_some_iff.mp label
    have claims := List.find?_some found
    simp only [Bundle.claims, Bool.and_eq_true, beq_iff_eq] at claims
    have same := coherent.owned.eq_of_intfId distinct member
      ((all owner).mp (List.mem_of_find?_eq_some found)) claims.1.symm valid
    rw [same]

/-- Nothing is left of a VLAN. -/
theorem dissolved
    (coherent : Coherent bridge tracked bundles members destroyedLags)
    (missing : after.exist vid = false)
    (existElsewhere : ∀ other, other ≠ vid → after.exist other = members.exist other)
    (elsewhere : ∀ other intfId, other ≠ vid →
      after.label other intfId = members.label other intfId) :
    Coherent bridge tracked bundles after destroyedLags := by
  refine coherent.inVlan existElsewhere elsewhere ?_ ?_ ?_
  · intro bundle _ present _ _
    rw [missing] at present
    contradiction
  · intro intfId labelled
    exact absurd (after.closed vid missing intfId) labelled
  · intro bundle _ _ encapType label _
    rw [after.closed vid missing] at label
    contradiction

end Coherent

end Bundles
end XpliantSwitchd
