import UnderstandProof.Analysis.GenerationContextCodec
import UnderstandProof.Analysis.GenerationContextSchema

/-!
# The hash of a context binds its content

Two contexts have the same canonical material exactly when they agree on everything but the hash,
in whatever order their members come. So a context with a changed field does not have the hash that
it is checked against.
-/

open Foundation
open Foundation.JsValue

namespace UnderstandProof

namespace Analysis

open Foundation.JsString (utf8Encode)
open Media (Sha256 sha256Hex)

theorem codec_context :
    Codec GenerationContextV1BaseSchema.read GenerationContextV1BaseSchema.write := by
  have hbody := (codec_labelled .pullRequestBody).nullable fun data =>
    show Json.obj _ ≠ Json.null from nofun
  have hfiles := codec_file.array 0 120
  have hanchors := codec_anchor.array 0 400
  have hexcerpts := codec_excerpt.array 0 12
  have htests := (codec_labelled .pullRequestFilename).array 0 120
  have hallowed := codec_anchorIds 0 400
  have hhits := codec_limitHit.array 0 20
  have hexclusions := codec_exclusion.array 0 600
  refine codec_object (by decide) (fun _ => rfl) ?_ (fun context => ?_) ?_
  · intro value context h
    obtain ⟨fields, hfields, h⟩ := Option.bind_eq_some_iff.mp h
    obtain ⟨_, h₁, h⟩ := Option.bind_eq_some_iff.mp h
    obtain ⟨_, h₂, h⟩ := Option.bind_eq_some_iff.mp h
    obtain ⟨_, h₃, h⟩ := Option.bind_eq_some_iff.mp h
    obtain ⟨_, h₄, h⟩ := Option.bind_eq_some_iff.mp h
    obtain ⟨_, h₅, h⟩ := Option.bind_eq_some_iff.mp h
    obtain ⟨_, h₆, h⟩ := Option.bind_eq_some_iff.mp h
    obtain ⟨_, h₇, h⟩ := Option.bind_eq_some_iff.mp h
    obtain ⟨_, h₈, h⟩ := Option.bind_eq_some_iff.mp h
    obtain ⟨_, h₉, h⟩ := Option.bind_eq_some_iff.mp h
    obtain ⟨_, h₁₀, h⟩ := Option.bind_eq_some_iff.mp h
    obtain ⟨_, h₁₁, h⟩ := Option.bind_eq_some_iff.mp h
    obtain ⟨_, h₁₂, h⟩ := Option.bind_eq_some_iff.mp h
    obtain ⟨_, h₁₃, h⟩ := Option.bind_eq_some_iff.mp h
    obtain ⟨_, h₁₄, h⟩ := Option.bind_eq_some_iff.mp h
    obtain ⟨_, h₁₅, h⟩ := Option.bind_eq_some_iff.mp h
    obtain ⟨_, h₁₆, h⟩ := Option.bind_eq_some_iff.mp h
    obtain ⟨_, h₁₇, h⟩ := Option.bind_eq_some_iff.mp h
    obtain ⟨_, h₁₈, h⟩ := Option.bind_eq_some_iff.mp h
    obtain ⟨_, h₁₉, h⟩ := Option.bind_eq_some_iff.mp h
    obtain ⟨_, h₂₀, h⟩ := Option.bind_eq_some_iff.mp h
    obtain rfl := Option.some.inj h
    exact ⟨fields, hfields, .cons (matches_literal h₁) (.cons (matches_literal h₂)
      (.cons (matches_text h₃) (.cons (matches_text h₄) (.cons (matches_text h₅)
        (.cons (matches_text h₆) (.cons (matches_text h₇) (.cons (matches_literal h₈)
          (.cons (matches_text h₉) (.cons ((codec_labelled _).matches h₁₀)
            (.cons (hbody.matches h₁₁) (.cons (hfiles.matches h₁₂) (.cons (hanchors.matches h₁₃)
              (.cons (hexcerpts.matches h₁₄) (.cons (htests.matches h₁₅)
                (.cons (hallowed.matches h₁₆) (.cons (codec_limits.matches h₁₇)
                  (.cons (hhits.matches h₁₈) (.cons (hexclusions.matches h₁₉)
                    (.cons (codec_usage.matches h₂₀) .nil)))))))))))))))))))⟩
  · exact ⟨.str _, .str _, .str _, .str _, .str _, .str _, .str _, .str _, .str _,
      codec_untrusted.plain_write _, hbody.plain_write _, hfiles.plain_write _,
      hanchors.plain_write _, hexcerpts.plain_write _, htests.plain_write _,
      hallowed.plain_write _, codec_limits.plain_write _, hhits.plain_write _,
      hexclusions.plain_write _, codec_usage.plain_write _⟩
  · intro a b h
    simp only [GenerationContextV1BaseSchema.values, List.map_cons, List.cons.injEq] at h
    obtain ⟨-, -, h₃, h₄, h₅, h₆, h₇, -, h₉, h₁₀, h₁₁, h₁₂, h₁₃, h₁₄, h₁₅, h₁₆, h₁₇, h₁₈, h₁₉, h₂₀,
      -⟩ := h
    cases a
    cases b
    rw [GenerationContext.mk.injEq]
    exact ⟨member_str_inj h₃, member_str_inj h₄, member_str_inj h₅, member_str_inj h₆,
      member_str_inj h₇, member_str_inj h₉, codec_untrusted.memberCodec.injective h₁₀,
      hbody.memberCodec.injective h₁₁, hfiles.memberCodec.injective h₁₂,
      hanchors.memberCodec.injective h₁₃, hexcerpts.memberCodec.injective h₁₄,
      htests.memberCodec.injective h₁₅, hallowed.memberCodec.injective h₁₆,
      codec_limits.memberCodec.injective h₁₇, hhits.memberCodec.injective h₁₈,
      hexclusions.memberCodec.injective h₁₉, codec_usage.memberCodec.injective h₂₀⟩

/-! ## The material -/

/-- The contexts agree on everything but the hash. -/
def GenerationContext.AgreesExceptHash (context context' : GenerationContext) : Prop :=
  { context with contextHash := context'.contextHash } = context'

/-- The members of what the base schema reads are those that its writer writes. -/
theorem readContext_members {value : JsValue} {context : GenerationContext}
    (h : GenerationContextV1BaseSchema.read value = some context) :
    ∃ fields, value = .obj fields ∧ Strict GenerationContextV1BaseSchema.names fields ∧
      ∀ name ∈ GenerationContextV1BaseSchema.names,
        (get name fields).member = (get name (GenerationContextV1BaseSchema.names.zip
          (GenerationContextV1BaseSchema.values context))).member := by
  obtain ⟨fields, hfields, -⟩ := Option.bind_eq_some_iff.mp h
  obtain ⟨rfl, hstrict⟩ := strictFields_eq_some.mp hfields
  refine ⟨fields, rfl, hstrict, ?_⟩
  exact (canonical_obj_eq_iff hstrict (strict_zip (by decide) rfl)).mp
    (codec_context.canonical h)

theorem write_strict (context : GenerationContext) :
    Strict GenerationContextV1BaseSchema.names
      (GenerationContextV1BaseSchema.names.zip (GenerationContextV1BaseSchema.values context)) :=
  strict_zip (by decide) rfl

theorem plain_of_read {value : JsValue} {context : GenerationContext}
    (h : GenerationContextV1BaseSchema.read value = some context) :
    (value.withoutMember (js "contextHash")).Plain :=
  (codec_context.plain h).withoutMember _

/-- Writing a context with another hash changes the member of the hash alone. -/
theorem write_with_hash (context : GenerationContext) (contextHash name : JsString)
    (hname : name ≠ js "contextHash") :
    get name (GenerationContextV1BaseSchema.names.zip (GenerationContextV1BaseSchema.values
        { context with contextHash })) =
      get name (GenerationContextV1BaseSchema.names.zip
        (GenerationContextV1BaseSchema.values context)) := by
  have hne : (name == js "contextHash") = false := beq_eq_false_iff_ne.mpr hname
  simp only [JsValue.get, GenerationContextV1BaseSchema.names, GenerationContextV1BaseSchema.values,
    List.zip_cons_cons, List.lookup_cons, hne]

theorem get_contextHash (context : GenerationContext) :
    get (js "contextHash") (GenerationContextV1BaseSchema.names.zip
      (GenerationContextV1BaseSchema.values context)) = .str context.contextHash := by
  rfl

/-- Members that agree outside the hash are those of contexts that agree outside the hash. -/
theorem members_agree_iff (context context' : GenerationContext) :
    (∀ name ∈ GenerationContextV1BaseSchema.names, name ≠ js "contextHash" →
      (get name (GenerationContextV1BaseSchema.names.zip
          (GenerationContextV1BaseSchema.values context))).member =
        (get name (GenerationContextV1BaseSchema.names.zip
          (GenerationContextV1BaseSchema.values context'))).member) ↔
      context.AgreesExceptHash context' := by
  constructor
  · intro h
    refine codec_context.injective ((canonical_obj_eq_iff (write_strict _)
      (write_strict _)).mpr fun name hname => ?_)
    by_cases hhash : name = js "contextHash"
    · subst hhash
      rw [get_contextHash, get_contextHash]
    · rw [write_with_hash context _ name hhash]
      exact h name hname hhash
  · intro h name _ hname
    have hwrite := write_with_hash context context'.contextHash name hname
    rw [show { context with contextHash := context'.contextHash } = context' from h] at hwrite
    rw [hwrite]

/-- Contexts have the same material exactly when they agree outside the hash. -/
theorem canonicalMaterial_eq_iff {value value' : JsValue} {context context' : GenerationContext}
    (h : GenerationContextV1BaseSchema.read value = some context)
    (h' : GenerationContextV1BaseSchema.read value' = some context') :
    canonicalGenerationContextMaterialV1 value = canonicalGenerationContextMaterialV1 value' ↔
      context.AgreesExceptHash context' := by
  refine (stableJson_eq_iff (plain_of_read h) (plain_of_read h')).trans ?_
  obtain ⟨fields, rfl, hstrict, hmembers⟩ := readContext_members h
  obtain ⟨fields', rfl, hstrict', hmembers'⟩ := readContext_members h'
  rw [canonical_withoutMember_iff hstrict hstrict', ← members_agree_iff]
  refine forall₂_congr fun name hname => ?_
  rw [hmembers name hname, hmembers' name hname]

/-! ## The hash -/

/-- The digests of two texts differ where their bytes do. -/
def NoCollision (hash : Sha256) (left right : JsString) : Prop :=
  hash.digest (utf8Encode left) = hash.digest (utf8Encode right) →
    utf8Encode left = utf8Encode right

theorem hexDigit_injective : ∀ n < 16, ∀ m < 16, Media.hexDigit n = Media.hexDigit m → n = m := by
  decide

theorem encodeHex_injective : Function.Injective Media.encodeHex := by
  intro a b h
  induction a generalizing b with
  | nil =>
      cases b with
      | nil => rfl
      | cons _ _ => cases h
  | cons x a ih =>
      cases b with
      | nil => cases h
      | cons y b =>
          have hx := x.toNat_lt
          have hy := y.toNat_lt
          simp only [Media.encodeHex, List.flatMap_cons, List.cons_append, List.nil_append,
            List.cons.injEq] at h
          obtain ⟨hhigh, hlow, hrest⟩ := h
          have hhigh := hexDigit_injective _ (by omega) _ (by omega) hhigh
          have hlow := hexDigit_injective _ (Nat.mod_lt _ (by omega)) _ (Nat.mod_lt _ (by omega))
            hlow
          rw [ih hrest, UInt8.toNat_inj.mp (show x.toNat = y.toNat by omega)]

/-- The material of a context is what is printed for a JSON value. -/
theorem canonicalMaterial_eq_stringify {value : JsValue} {context : GenerationContext}
    (h : GenerationContextV1BaseSchema.read value = some context) :
    ∃ json, canonicalGenerationContextMaterialV1 value = Json.stringify json :=
  ⟨_, stableJson_eq (plain_of_read h)⟩

/-- Without a collision, contexts with one hash agree outside it. -/
theorem agrees_of_hash_eq {hash : Sha256} {value value' : JsValue}
    {context context' : GenerationContext}
    (h : GenerationContextV1BaseSchema.read value = some context)
    (h' : GenerationContextV1BaseSchema.read value' = some context')
    (hcollision : NoCollision hash (canonicalGenerationContextMaterialV1 value)
      (canonicalGenerationContextMaterialV1 value'))
    (heq : computeGenerationContextHash hash value = computeGenerationContextHash hash value') :
    context.AgreesExceptHash context' := by
  have hbytes := hcollision (encodeHex_injective heq)
  refine (canonicalMaterial_eq_iff h h').mp ?_
  obtain ⟨json, hjson⟩ := canonicalMaterial_eq_stringify h
  obtain ⟨json', hjson'⟩ := canonicalMaterial_eq_stringify h'
  rw [hjson, hjson'] at hbytes ⊢
  rw [Json.utf8Encode_stringify_injective hbytes]

/-- The hash that a context is checked against is the one of the value it was read from. -/
theorem computeHash_write {hash : Sha256} {value : JsValue} {context : GenerationContext}
    (h : GenerationContextV1BaseSchema.read value = some context) :
    computeGenerationContextHash hash (GenerationContextV1BaseSchema.write context) =
      computeGenerationContextHash hash value := by
  have hmaterial : canonicalGenerationContextMaterialV1
      (GenerationContextV1BaseSchema.write context) =
        canonicalGenerationContextMaterialV1 value := by
    refine (stableJson_eq_iff ((codec_context.plain_write context).withoutMember _)
      (plain_of_read h)).mpr ?_
    obtain ⟨fields, rfl, hstrict, hmembers⟩ := readContext_members h
    refine (canonical_withoutMember_iff (write_strict context) hstrict _).mpr ?_
    exact fun name hname _ => (hmembers name hname).symm
  rw [computeGenerationContextHash, hmaterial, computeGenerationContextHash]

theorem hash_of_accepted {hash : Sha256} {value : JsValue} {context : GenerationContext}
    (h : GenerationContextV1Schema.read hash value = some context) :
    GenerationContextV1BaseSchema.read value = some context ∧
      context.contextHash = computeGenerationContextHash hash value := by
  obtain ⟨hbase, hrefines⟩ := Option.filter_eq_some_iff.mp h
  refine ⟨hbase, ?_⟩
  rw [GenerationContextV1Schema.refines, Bool.and_eq_true] at hrefines
  rw [← computeHash_write hbase]
  exact beq_iff_eq.mp hrefines.2

/-- A context binds its content: the material tells any two contexts apart that differ outside the
hash, and a context that is changed under its hash is rejected. -/
theorem generationContext_hash_binds (hash : Sha256) :
    (∀ {value value' : JsValue} {context context' : GenerationContext},
      GenerationContextV1BaseSchema.read value = some context →
      GenerationContextV1BaseSchema.read value' = some context' →
        (canonicalGenerationContextMaterialV1 value =
            canonicalGenerationContextMaterialV1 value' ↔ context.AgreesExceptHash context')) ∧
    ∀ {value value' : JsValue} {context : GenerationContext},
      GenerationContextV1Schema.read hash value = some context →
      (∀ context', GenerationContextV1BaseSchema.read value' = some context' →
        context' ≠ context ∧ context'.contextHash = context.contextHash) →
      NoCollision hash (canonicalGenerationContextMaterialV1 value)
        (canonicalGenerationContextMaterialV1 value') →
      GenerationContextV1Schema.read hash value' = none := by
  refine ⟨fun h h' => canonicalMaterial_eq_iff h h', ?_⟩
  intro value value' context h hchanged hcollision
  by_contra hne
  obtain ⟨context', h'⟩ := Option.ne_none_iff_exists'.mp hne
  obtain ⟨hbase, hhash⟩ := hash_of_accepted h
  obtain ⟨hbase', hhash'⟩ := hash_of_accepted h'
  obtain ⟨hdiffer, hkept⟩ := hchanged context' hbase'
  have hagrees := agrees_of_hash_eq hbase hbase' hcollision
    (hhash.symm.trans (hkept.symm.trans hhash'))
  rw [GenerationContext.AgreesExceptHash, hkept] at hagrees
  exact hdiffer hagrees.symm

/-! ### A context without files -/

def sampleDigest : Media.Bytes :=
  [224, 124, 91, 15, 179, 60, 134, 237, 121, 207, 175, 112, 189, 45, 207, 80, 225, 207, 196, 30,
    160, 15, 95, 223, 37, 63, 201, 209, 251, 37, 135, 220]

/-- A context with a title of one letter, under the hash of the title `T`. -/
def sampleContext (title : JsString) : GenerationContext where
  revisionId := js "10000000-0000-4000-8000-000000000001"
  headSha := List.replicate 40 0x31
  baseSha := List.replicate 40 0x32
  analysisSnapshotId := js "10000000-0000-4000-8000-000000000002"
  sourceHash := List.replicate 64 0x30
  contextHash := Media.encodeHex sampleDigest
  title := untrusted .pullRequestTitle title
  body := none
  files := []
  anchors := []
  excerpts := []
  deterministicTestFiles := []
  allowedAnchorIds := []
  limits := ⟨1, 1, 1024, 512, 64, 128, 0, 128⟩
  limitsHit := []
  exclusions := []
  usage := ⟨0, 0, 1, 0, 0, 0, 447, 447⟩

def sampleValue (title : JsString) : JsValue :=
  GenerationContextV1BaseSchema.write (sampleContext title)

/-- SHA-256 on the material of the titles `T` and `U`; elsewhere zero. -/
def sampleHash : Sha256 where
  digest value :=
    if value = utf8Encode (canonicalGenerationContextMaterialV1 (sampleValue (js "T"))) then
      sampleDigest
    else if value = utf8Encode (canonicalGenerationContextMaterialV1 (sampleValue (js "U"))) then
      [238, 67, 209, 155, 245, 135, 134, 18, 196, 180, 19, 243, 21, 181, 170, 215, 126, 248, 44, 230,
        159, 123, 200, 148, 4, 149, 129, 45, 46, 74, 213, 185]
    else List.replicate 32 0
  length_digest value := by
    split
    · rfl
    · split <;> rfl

theorem generationContext_hash_binds_sample :
    canonicalGenerationContextMaterialV1 (sampleValue (js "T")) ≠
        canonicalGenerationContextMaterialV1 (sampleValue (js "U")) ∧
      GenerationContextV1Schema.read sampleHash (sampleValue (js "U")) = none := by
  have hT : GenerationContextV1BaseSchema.read (sampleValue (js "T")) =
      some (sampleContext (js "T")) := by decide
  have hU : GenerationContextV1BaseSchema.read (sampleValue (js "U")) =
      some (sampleContext (js "U")) := by decide
  have haccepted : GenerationContextV1Schema.read sampleHash (sampleValue (js "T")) =
      some (sampleContext (js "T")) := by decide +kernel
  have hdiffer : sampleContext (js "U") ≠ sampleContext (js "T") := by decide
  refine ⟨fun heq => ?_, ?_⟩
  · exact hdiffer ((generationContext_hash_binds sampleHash).1 hT hU |>.mp heq).symm
  · refine (generationContext_hash_binds sampleHash).2 haccepted (fun context' h' => ?_) ?_
    · obtain rfl := Option.some.inj (hU.symm.trans h')
      exact ⟨hdiffer, rfl⟩
    · intro heq
      exact absurd heq (by decide +kernel)

end Analysis

end UnderstandProof
