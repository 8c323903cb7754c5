/-
A change of tag keeps the repository, whatever the reference had behind it.

# Colons and slashes

A colon in a reference is a registry's port or stands in front of the tag. It
is a port where a slash comes behind it, so only the part behind the last slash
can hold a tag. A digest has colons of its own, but it starts with the first at
sign, and all of it is dropped before colons are looked for.

# Changes one after the other

The part that a change keeps has no at sign left (`at_notMem_repository`), and
a tag brings none and no slash. So the colon in front of a tag that was just
put there is the last one behind the last slash, and the next change finds it
and keeps what the first one kept (`repositoryChars_tagged`). That is true of
every text, also of one that is no reference. Of changes one after the other
only the last one counts, by induction on those before it.
-/
import Mathlib.Data.List.DropRight
import Fleetkeeper.Proofs.Upgrade.Completion

namespace Fleetkeeper

namespace Image

-- ============================================================== references

/-- What stands behind the last slash of a text, all of it where there is
none. -/
def lastSegment (text : List Char) : List Char := text.rtakeWhile (· ≠ '/')

/-- A text that names a repository and nothing else: it has no digest, and what
is behind its last slash has no tag. A registry in front may have a port. -/
structure IsRepository (r : String) : Prop where
  noDigest : '@' ∉ r.toList
  noTag : ':' ∉ lastSegment r.toList

/-- A text that can be told from what stands in front of it. -/
structure IsTag (t : String) : Prop where
  noSlash : '/' ∉ t.toList
  noColon : ':' ∉ t.toList
  noAt : '@' ∉ t.toList

/-- A part of a reference behind its sign, if there is one. -/
def signed (sign : String) : Option String → String
  | none => ""
  | some part => sign ++ part

/-- A repository, with a tag and a digest where there are such. -/
def reference (repository : String) (tag digest : Option String) : String :=
  repository ++ signed ":" tag ++ signed "@" digest

-- ============================================================== characters

theorem ne_of_notMem {c : Char} {xs : List Char} (h : c ∉ xs) :
    ∀ x ∈ xs, decide (x ≠ c) = true := by
  intro x hx
  rw [decide_eq_true_iff]
  rintro rfl
  exact h hx

theorem takeWhile_ne_self {c : Char} {xs : List Char} (h : c ∉ xs) :
    xs.takeWhile (· ≠ c) = xs :=
  List.takeWhile_eq_self_iff.2 (ne_of_notMem h)

/-- A run up to the first `c`. -/
theorem takeWhile_ne_append {c : Char} {xs : List Char} (h : c ∉ xs)
    (ys : List Char) :
    (xs ++ c :: ys).takeWhile (· ≠ c) = xs := by
  rw [List.takeWhile_append_of_pos (ne_of_notMem h)]
  simp

/-- What is left from the first `c` on. -/
theorem dropWhile_ne_append {c : Char} {xs : List Char} (h : c ∉ xs)
    (ys : List Char) :
    (xs ++ c :: ys).dropWhile (· ≠ c) = c :: ys := by
  rw [List.dropWhile_append_of_pos (ne_of_notMem h)]
  simp

/-- A digest makes no difference. -/
theorem repositoryChars_digest {plain : List Char} (h : '@' ∉ plain)
    (digest : List Char) :
    repositoryChars (plain ++ '@' :: digest) = repositoryChars plain := by
  unfold repositoryChars
  rw [takeWhile_ne_append h, takeWhile_ne_self h]

/-- A text that names a repository and nothing else is kept as it is. -/
theorem repositoryChars_plain {r : List Char} (hat : '@' ∉ r)
    (hcolon : ':' ∉ lastSegment r) :
    repositoryChars r = r := by
  have hsegment : (r.reverse.takeWhile (· ≠ '/')).contains ':' = false := by
    rw [← Bool.not_eq_true, List.contains_iff_mem]
    intro hmem
    exact hcolon (List.mem_reverse.2 hmem)
  unfold repositoryChars
  rw [takeWhile_ne_self hat]
  dsimp only
  rw [hsegment, if_neg Bool.false_ne_true, List.takeWhile_append_dropWhile,
    List.reverse_reverse]

/-- A tag is dropped, whatever is in front of it: its colon is the last one,
and no slash comes behind it. -/
theorem repositoryChars_tagged {r t : List Char} (hr : '@' ∉ r)
    (hslash : '/' ∉ t) (hcolon : ':' ∉ t) (hat : '@' ∉ t) :
    repositoryChars (r ++ ':' :: t) = r := by
  have hplain : '@' ∉ r ++ ':' :: t := by simp [hr, hat]
  -- from the back: the tag and its colon, then the rest of the last segment
  have hback : (r ++ ':' :: t).reverse = t.reverse ++ [':'] ++ r.reverse := by
    simp
  have hnoSlash : '/' ∉ t.reverse ++ [':'] := by simp [hslash]
  have hsegment : (t.reverse ++ [':'] ++ r.reverse).takeWhile (· ≠ '/')
      = t.reverse ++ ':' :: r.reverse.takeWhile (· ≠ '/') := by
    rw [List.takeWhile_append_of_pos (ne_of_notMem hnoSlash)]
    simp
  have hrest : (t.reverse ++ [':'] ++ r.reverse).dropWhile (· ≠ '/')
      = r.reverse.dropWhile (· ≠ '/') :=
    List.dropWhile_append_of_pos (ne_of_notMem hnoSlash)
  have hnamed :
      (t.reverse ++ ':' :: r.reverse.takeWhile (· ≠ '/')).dropWhile (· ≠ ':')
        = ':' :: r.reverse.takeWhile (· ≠ '/') :=
    dropWhile_ne_append (by simpa using hcolon) _
  unfold repositoryChars
  rw [takeWhile_ne_self hplain]
  dsimp only
  rw [hback, hsegment, hrest, if_pos (by simp), hnamed, List.drop_one,
    List.tail_cons, List.takeWhile_append_dropWhile, List.reverse_reverse]

/-- What is kept has no at sign. -/
theorem at_notMem_repository (image : List Char) :
    '@' ∉ repositoryChars image := by
  have hplain : '@' ∉ image.takeWhile (· ≠ '@') := by
    intro hmem
    have hne := List.mem_takeWhile_imp hmem
    simp at hne
  unfold repositoryChars
  generalize image.takeWhile (· ≠ '@') = plain at hplain
  dsimp only
  have hback : ∀ c, c ∈ plain.reverse.takeWhile (· ≠ '/')
      ∨ c ∈ plain.reverse.dropWhile (· ≠ '/') → c ∈ plain := by
    intro c hc
    rw [← List.mem_reverse,
      ← List.takeWhile_append_dropWhile (p := (· ≠ '/')) (l := plain.reverse),
      List.mem_append]
    exact hc
  rw [List.mem_reverse, List.mem_append]
  rintro (hsegment | hrest)
  · refine hplain (hback _ (.inl ?_))
    split at hsegment
    · exact (List.dropWhile_sublist _).subset (List.mem_of_mem_drop hsegment)
    · exact hsegment
  · exact hplain (hback _ (.inr hrest))

-- ============================================================ changed tags

theorem toList_withTag (image tag : String) :
    (withTag image tag).toList
      = repositoryChars image.toList ++ ':' :: tag.toList :=
  String.toList_ofList

theorem withTag_of_repository {image r : String}
    (h : repositoryChars image.toList = r.toList) (v : String) :
    withTag image v = r ++ ":" ++ v := by
  rw [← String.toList_inj, toList_withTag, h]
  simp

/-- Of a reference the repository is kept, and nothing else. -/
theorem withTag_reference {r : String} {tag : Option String}
    (hr : IsRepository r) (htag : ∀ t ∈ tag, IsTag t) (digest : Option String)
    (v : String) :
    withTag (reference r tag digest) v = r ++ ":" ++ v := by
  have hplain : '@' ∉ (r ++ signed ":" tag).toList
      ∧ repositoryChars (r ++ signed ":" tag).toList = r.toList := by
    rw [String.toList_append]
    cases tag with
    | none =>
      simp [signed, hr.noDigest, repositoryChars_plain hr.noDigest hr.noTag]
    | some t =>
      obtain ⟨hslash, hcolon, hat⟩ := htag t rfl
      have htagged := repositoryChars_tagged hr.noDigest hslash hcolon hat
      simp [signed, hr.noDigest, hat, htagged]
  refine withTag_of_repository ?_ v
  unfold reference
  rw [String.toList_append]
  cases digest with
  | none => simpa [signed] using hplain.2
  | some d =>
    have hdigest : (signed "@" (some d)).toList = '@' :: d.toList := by
      simp [signed]
    rw [hdigest, repositoryChars_digest hplain.1, hplain.2]

/-- A tag that was put to an image is changed like any other, whatever the
image was. -/
theorem withTag_withTag {t : String} (ht : IsTag t) (image v : String) :
    withTag (withTag image t) v = withTag image v := by
  obtain ⟨hslash, hcolon, hat⟩ := ht
  have hkept : repositoryChars (withTag image t).toList
      = repositoryChars image.toList := by
    rw [toList_withTag]
    exact repositoryChars_tagged (at_notMem_repository _) hslash hcolon hat
  rw [← String.toList_inj, toList_withTag (withTag image t), hkept,
    toList_withTag]

end Image

open Image (IsRepository IsTag reference withTag)

-- ============================================================== containers

/-- A container moved to a tag, where its configuration is known. -/
theorem upgradeTag_known {c : Container} {spec : ContainerSpec}
    (hspec : c.config = some spec) (tag : String) :
    upgradeTag tag c
      = .ok { c with image := (spec.retag tag).image,
                     config := some (spec.retag tag) } := by
  unfold upgradeTag
  rw [hspec]
  rfl

theorem upgradeTag_unknown {c : Container} (hnone : c.config = none)
    (tag : String) :
    ∃ e, upgradeTag tag c = .error e := by
  unfold upgradeTag
  rw [hnone]
  exact ⟨_, rfl⟩

/-- Changes of tag one after the other, as far as they go. -/
def upgradeTags (tags : List String) (c : Container) :
    Except Fault Container :=
  tags.foldlM (fun c tag => upgradeTag tag c) c

/-- A change of tag behind another one does what it would do without it. -/
theorem upgradeTag_superseded {t : String} (ht : IsTag t) (c : Container)
    (v : String) :
    (upgradeTag t c >>= upgradeTag v) = upgradeTag v c := by
  cases hconfig : c.config with
  | none =>
    unfold upgradeTag
    rw [hconfig]
    rfl
  | some spec =>
    have hspec : (spec.retag t).retag v = spec.retag v := by
      unfold ContainerSpec.retag
      rw [Image.withTag_withTag ht]
    rw [upgradeTag_known hconfig, upgradeTag_known hconfig]
    show upgradeTag v { c with image := (spec.retag t).image,
                               config := some (spec.retag t) } = _
    rw [upgradeTag_known rfl, hspec]

/-- Of changes one after the other only the last one counts. By induction on
those before it. -/
theorem upgradeTags_last {tags : List String} (htags : ∀ t ∈ tags, IsTag t)
    (c : Container) (v : String) :
    upgradeTags (tags ++ [v]) c = upgradeTag v c := by
  induction tags generalizing c with
  | nil =>
    show (upgradeTag v c >>= pure) = _
    cases upgradeTag v c <;> rfl
  | cons t rest ih =>
    have hfirst := upgradeTag_superseded (htags t List.mem_cons_self) c v
    show (upgradeTag t c >>= upgradeTags (rest ++ [v])) = _
    rw [← hfirst]
    cases upgradeTag t c with
    | error e => rfl
    | ok c' =>
      exact ih (fun t' ht' => htags t' (List.mem_cons_of_mem _ ht')) c'

/-- A change of tag keeps the repository of a reference, whether or not that
has a tag or a digest, and whether or not its registry has a port. Whatever
text an image is, a tag that is put to it is what the next change replaces. So
changes of a container's tag can be repeated and superseded: any number of them
one after the other come to what the last one comes to by itself.

A change needs the configuration to be known, and then it is made. It changes
the image of the container and that of the configuration, which are the same
from then on, and nothing else. -/
theorem retagging_keeps_repository :
    (∀ (r v : String) (tag digest : Option String), IsRepository r →
      (∀ t ∈ tag, IsTag t) →
        withTag (reference r tag digest) v = r ++ ":" ++ v)
      ∧ (∀ image t v : String, IsTag t →
        withTag (withTag image t) v = withTag image v)
      ∧ (∀ (tags : List String) (v : String) (c : Container),
        (∀ t ∈ tags, IsTag t) →
          upgradeTags (tags ++ [v]) c = upgradeTag v c)
      ∧ (∀ (v : String) (c : Container), c.config = none →
        ∃ e, upgradeTag v c = .error e)
      ∧ ∀ (v : String) (c : Container) (spec : ContainerSpec),
        c.config = some spec →
          let image := withTag spec.image v
          upgradeTag v c
            = .ok { c with image, config := some { spec with image } } :=
  ⟨fun _ v _ digest hr htag => Image.withTag_reference hr htag digest v,
    fun image _ v ht => Image.withTag_withTag ht image v,
    fun _ v c htags => upgradeTags_last htags c v,
    fun v _ hnone => upgradeTag_unknown hnone v,
    fun v _ _ hspec => upgradeTag_known hspec v⟩

/-- A reference with a port, a tag and a digest with colons of its own, and a
text that is no reference. -/
theorem retagging_of_ported :
    reference "registry:5000/app" (some "1.0") (some "sha256:ab:cd/e@f")
        = "registry:5000/app:1.0@sha256:ab:cd/e@f"
      ∧ withTag (reference "registry:5000/app" (some "1.0")
          (some "sha256:ab:cd/e@f")) "2.0"
        = "registry:5000/app:2.0"
      ∧ withTag (withTag "a::b/:@" "1.0") "2.0" = withTag "a::b/:@" "2.0" := by
  have hrepository : IsRepository "registry:5000/app" := ⟨by decide, by decide⟩
  have htag : IsTag "1.0" := ⟨by decide, by decide, by decide⟩
  have hkeeps := retagging_keeps_repository
  refine ⟨by decide, ?_, hkeeps.2.1 _ _ _ htag⟩
  refine hkeeps.1 _ "2.0" (some "1.0") _ hrepository fun t ht => ?_
  cases Option.some.inj ht
  exact htag

end Fleetkeeper
