import SceneHub.Hub.AudioMixer
import SceneHub.Theory.MosfetRamps

/-!
# The Fades of a Channel

What is mixed of a channel has the sign of what was written to it and is no louder, and from a
fade-out on it falls to silence in as many frames as were asked for.

That holds as long as nothing sets the fade up again before the stream is stopped or started:
finishing the stream and fading it out once more both begin at the full level, and a stream that
has run out forgets its fade. And a sample is multiplied by the frames that remain in 32 bits,
which a loud one in a long fade leaves.

## Main definitions

* `FadeRun`, `fadeStep`: A channel, with the fade that was asked for first.
* `Undisturbed`: A step does not set the fade up again, and its products fit.
* `BlockRight`: What is asked of the frames that are mixed.

## Theorems

* `FadeInv.step`: How far the channel is in its fade.
* `fades_right`: Every block is right in every run that is not disturbed.
-/

namespace SceneHub.Hub

open Node (InInt32 bmod_of_inInt32)

variable {gain total : Nat} {sample : Int16} {c : MixerChannel} {pcm : List Frame}

/-! ### Samples -/

/-- A relation of the samples of two frames. -/
def Both (P : Int16 → Int16 → Prop) (out input : Frame) : Prop := P out.1 input.1 ∧ P out.2 input.2

/-- Of the sign of the input, and no louder. -/
def Under (out input : Int16) : Prop :=
  (0 ≤ input.toInt → 0 ≤ out.toInt ∧ out.toInt ≤ input.toInt) ∧
    (input.toInt ≤ 0 → input.toInt ≤ out.toInt ∧ out.toInt ≤ 0)

/-- The input times a fraction, with a product in 32 bits. -/
def Scaled (gain total : Nat) (out input : Int16) : Prop :=
  InInt32 (input.toInt * gain) ∧ out.toInt = (input.toInt * gain).tdiv total

theorem Under.refl (a : Int16) : Under a a :=
  ⟨fun h => ⟨h, Int.le_refl _⟩, fun h => ⟨Int.le_refl _, h⟩⟩

theorem Under.trans {a b d : Int16} (h : Under a b) (h' : Under b d) : Under a d := by
  unfold Under at *
  omega

/-- A fraction of a number lies between it and zero. -/
theorem tdiv_between (x : Int) (hgain : gain ≤ total) :
    (0 ≤ x → 0 ≤ (x * gain).tdiv total ∧ (x * gain).tdiv total ≤ x) ∧
      (x ≤ 0 → x ≤ (x * gain).tdiv total ∧ (x * gain).tdiv total ≤ 0) := by
  have hpos : ∀ y : Nat, 0 ≤ ((y : Int) * gain).tdiv total ∧ ((y : Int) * gain).tdiv total ≤ y := by
    intro y
    have hle : y * gain / total ≤ y := Nat.div_le_of_le_mul (by
      rw [Nat.mul_comm total]
      exact Nat.mul_le_mul_left y hgain)
    rw [← Int.natCast_mul, ← Int.ofNat_tdiv]
    exact ⟨Int.natCast_nonneg _, Int.ofNat_le.2 hle⟩
  constructor
  · intro hx
    obtain ⟨y, rfl⟩ := Int.eq_ofNat_of_zero_le hx
    exact hpos y
  · intro hx
    obtain ⟨y, hy⟩ := Int.eq_ofNat_of_zero_le (Int.neg_nonneg_of_nonpos hx)
    obtain rfl : x = -(y : Int) := by omega
    rw [Int.neg_mul, Int.neg_tdiv]
    have := hpos y
    omega

theorem Scaled.under {out : Int16} (h : Scaled gain total out sample) (hgain : gain ≤ total) :
    Under out sample := by
  unfold Under
  rw [h.2]
  exact tdiv_between sample.toInt hgain

theorem scaleSample_scaled (hgain : gain ≤ total) (hfits : InInt32 (sample.toInt * gain)) :
    Scaled gain total (scaleSample gain total sample) sample := by
  have hbetween := tdiv_between sample.toInt hgain
  have hmin := Int16.le_toInt sample
  have hmax := Int16.toInt_lt sample
  refine ⟨hfits, ?_⟩
  unfold scaleSample
  rw [show (4294967296 : Nat) = 2 ^ 32 from rfl, bmod_of_inInt32 hfits, Int16.toInt_ofInt,
    show Int16.size = 65536 from rfl, Int.bmod_eq_of_le] <;> omega

/-- A fade-in never leaves 32 bits. -/
theorem fits_fadeIn (hgain : gain ≤ fadeInFrames) (x : Int16) : InInt32 (x.toInt * gain) := by
  have hmin := Int.mul_le_mul_of_nonneg_right (Int16.le_toInt x) (Int.natCast_nonneg gain)
  have hmax := Int.mul_le_mul_of_nonneg_right (Int.le_of_lt (Int16.toInt_lt x))
    (Int.natCast_nonneg gain)
  have hfew : gain ≤ 1411 := hgain
  unfold InInt32
  omega

theorem Under.fits {out : Int16} (h : Under out sample) (hfits : InInt32 (sample.toInt * gain)) :
    InInt32 (out.toInt * gain) := by
  have hgain := Int.natCast_nonneg gain
  unfold InInt32 at *
  rcases Int.le_total 0 sample.toInt with hpos | hneg
  · have hlow := Int.mul_nonneg (h.1 hpos).1 hgain
    have hhigh := Int.mul_le_mul_of_nonneg_right (h.1 hpos).2 hgain
    omega
  · have hlow := Int.mul_le_mul_of_nonneg_right (h.2 hneg).1 hgain
    have hhigh := Int.mul_le_mul_of_nonneg_right (h.2 hneg).2 hgain
    omega

/-! ### Blocks -/

/-- The products of a frame fit. -/
def FrameFits (frame : Frame) (gain : Nat) : Prop :=
  InInt32 (frame.1.toInt * gain) ∧ InInt32 (frame.2.toInt * gain)

/-- A block that falls off from a gain, by one for every frame. -/
def FallsFrom (gain total : Nat) (out input : List Frame) : Prop :=
  out.length = input.length ∧ ∀ i o frame, out[i]? = some o → input[i]? = some frame →
    Both (Scaled (gain - i) total) o frame

theorem scaleFrame_zero (total : Nat) (frame : Frame) : scaleFrame 0 total frame = (0, 0) := by
  simp [scaleFrame, scaleSample]

theorem fadeOutLoop_eq (remaining : Nat) : fadeOutLoop total remaining pcm =
    (pcm.mapIdx fun i => scaleFrame (remaining - i) total, remaining - pcm.length) := by
  induction pcm generalizing remaining with
  | nil => cases remaining <;> rfl
  | cons frame pcm ih =>
    cases remaining with
    | zero => simp [fadeOutLoop, scaleFrame_zero, List.mapIdx_eq_zipIdx_map]
    | succ n => simp [fadeOutLoop, ih, List.mapIdx_cons]

theorem fallsFrom_mapIdx (hgain : gain ≤ total)
    (hfits : ∀ i frame, pcm[i]? = some frame → FrameFits frame (gain - i)) :
    FallsFrom gain total (pcm.mapIdx fun i => scaleFrame (gain - i) total) pcm := by
  refine ⟨List.length_mapIdx, fun i o frame ho hframe => ?_⟩
  rw [List.getElem?_mapIdx, hframe] at ho
  cases ho
  have hle : gain - i ≤ total := Nat.le_trans (Nat.sub_le ..) hgain
  have hframe := hfits i frame hframe
  exact ⟨scaleSample_scaled hle hframe.1, scaleSample_scaled hle hframe.2⟩

/-- A frame that is not faded in, or by a fraction whose products fit. -/
def FadedIn (out input : Frame) : Prop :=
  out = input ∨ ∃ gain ≤ fadeInFrames, Both (Scaled gain fadeInFrames) out input

theorem FadedIn.under {out input : Frame} (h : FadedIn out input) : Both Under out input := by
  rcases h with rfl | ⟨gain, hgain, hleft, hright⟩
  · exact ⟨.refl _, .refl _⟩
  · exact ⟨hleft.under hgain, hright.under hgain⟩

theorem fadeInLoop_faded (pcm : List Frame) (remaining : Nat) (hle : remaining ≤ fadeInFrames) :
    List.Forall₂ FadedIn (fadeInLoop remaining pcm).1 pcm ∧
      (fadeInLoop remaining pcm).2 ≤ fadeInFrames := by
  induction pcm generalizing remaining with
  | nil => cases remaining <;> exact ⟨.nil, hle⟩
  | cons frame pcm ih =>
    cases remaining with
    | zero => exact ⟨List.forall₂_same.2 fun _ _ => .inl rfl, Nat.zero_le _⟩
    | succ n =>
      have hgain : fadeInFrames - (n + 1) + 1 ≤ fadeInFrames := by omega
      have hscaled (x : Int16) := scaleSample_scaled hgain (fits_fadeIn hgain x)
      rcases ih n (Nat.le_of_succ_le hle) with ⟨hrest, hremaining⟩
      exact ⟨.cons (.inr ⟨_, hgain, hscaled _, hscaled _⟩) hrest, hremaining⟩

/-! ### Runs -/

/-- The channel as the fades find it. -/
def received (c : MixerChannel) (pcm : List Frame) : MixerChannel :=
  { (channelShouldRead c).2 with
    available := (channelShouldRead c).2.available - 4 * pcm.length }

/-- What is given to the fade-out. -/
def fadedBlock (c : MixerChannel) (pcm : List Frame) : List Frame :=
  mixBlock (applyFadeIn (received c pcm) pcm).2 (applyFadeIn (received c pcm) pcm).1

/-- What is mixed. -/
def mixedBlock (c : MixerChannel) (pcm : List Frame) : List Frame :=
  (applyFadeOut (applyFadeIn (received c pcm) pcm).2 (fadedBlock c pcm)).1

/-- A channel, with the frames of the fade-out that was asked for first, and those since then. -/
structure FadeRun where
  channel : MixerChannel := {}
  fade : Option (Nat × Nat) := none
  deriving DecidableEq

/-- The fade-out behind a step. It is over when the stream is stopped or started. -/
def FadeRun.fadeBehind (s : FadeRun) : MixerStep → Option (Nat × Nat)
  | .start _ | .stop => none
  | .fadeOut durationMs =>
    if durationMs ≤ 0 then none
    else if s.channel.active ∨ 0 < s.channel.available then
      s.fade.or (some (fadeOutFrames durationMs, 0))
    else s.fade
  | .mix pcm => s.fade.map fun fade => (fade.1, fade.2 + (fadedBlock s.channel pcm).length)
  | _ => s.fade

def fadeStep (s : FadeRun) (act : MixerStep) : Option FadeRun :=
  (mixerStep s.channel act).map fun channel => { channel, fade := s.fadeBehind act }

/-- A step leaves a fade-out that was asked for alone, and the products of a block fit. -/
def Undisturbed (s : FadeRun) : MixerStep → Prop
  | .finish => s.fade = none
  | .fadeOut durationMs =>
    0 < durationMs → s.channel.active ∨ 0 < s.channel.available → s.fade = none
  | .mix pcm =>
    (s.fade ≠ none → s.channel.active ∨ 0 < s.channel.available) ∧
      ∀ frame ∈ pcm.zipIdx,
        FrameFits frame.1 ((channelShouldRead s.channel).2.fadeOutRemaining - frame.2)
  | _ => True

/-- The frames of a block are faded in and out with products that fit, no louder than they were,
    and fall to zero in as many frames as were asked for. -/
structure BlockRight (s : FadeRun) (pcm : List Frame) : Prop where
  fadedIn : List.Forall₂ FadedIn (fadedBlock s.channel pcm) (mixBlock (received s.channel pcm) pcm)
  fadedOut : mixedBlock s.channel pcm = fadedBlock s.channel pcm ∨ ∃ gain total, gain ≤ total ∧
    FallsFrom gain total (mixedBlock s.channel pcm) (fadedBlock s.channel pcm)
  under : List.Forall₂ (Both Under) (mixedBlock s.channel pcm)
    (mixBlock (received s.channel pcm) pcm)
  envelope : ∀ frames since, s.fade = some (frames, since) →
    FallsFrom (frames - since) frames (mixedBlock s.channel pcm) (fadedBlock s.channel pcm)

/-- A channel is in a fade-out of so many frames, some of which have passed. -/
structure Falling (c : MixerChannel) (frames since : Nat) : Prop where
  pos : 0 < frames
  pending : c.finishFadePending = false
  total : c.fadeOutTotal = frames
  remaining : c.fadeOutRemaining = frames - since
  muted : c.fadeOutMuted = decide (frames ≤ since)

/-- How far a channel is in its fades. -/
structure FadeInv (s : FadeRun) : Prop where
  fadeIn : s.channel.fadeInRemaining ≤ fadeInFrames
  fadeOut : s.channel.fadeOutRemaining ≤ s.channel.fadeOutTotal
  fade : ∀ frames since, s.fade = some (frames, since) → Falling s.channel frames since

theorem FallsFrom.under {out : List Frame} (h : FallsFrom gain total out pcm)
    (hgain : gain ≤ total) : List.Forall₂ (Both Under) out pcm := by
  refine List.forall₂_iff_get.2 ⟨h.1, fun i hout hin => ?_⟩
  have hscaled := h.2 i _ _ (List.getElem?_eq_getElem hout) (List.getElem?_eq_getElem hin)
  have hle : gain - i ≤ total := Nat.le_trans (Nat.sub_le ..) hgain
  exact ⟨hscaled.1.under hle, hscaled.2.under hle⟩

/-- A fade-out: there is none, or the block falls off from where it is. -/
theorem applyFadeOut_falls (hle : c.fadeOutRemaining ≤ c.fadeOutTotal)
    (hfits : ∀ i frame, pcm[i]? = some frame → FrameFits frame (c.fadeOutRemaining - i)) :
    ((applyFadeOut c pcm).1 = pcm ∧ c.fadeOutMuted = false ∧ c.fadeOutRemaining = 0) ∨
      ∃ gain ≤ c.fadeOutTotal, FallsFrom gain c.fadeOutTotal (applyFadeOut c pcm).1 pcm ∧
        gain = if c.fadeOutMuted then 0 else c.fadeOutRemaining := by
  have hsilent : FallsFrom 0 c.fadeOutTotal (pcm.mapIdx fun i => scaleFrame (0 - i) _) pcm :=
    fallsFrom_mapIdx (Nat.zero_le _) fun i frame _ => by simp [FrameFits, InInt32]
  unfold applyFadeOut
  cases hmuted : c.fadeOutMuted with
  | true =>
    refine .inr ⟨0, Nat.zero_le _, ?_, rfl⟩
    split
    · next hnil => exact ⟨rfl, fun i o frame ho => by simp [hnil] at ho⟩
    · simpa [scaleFrame_zero, List.mapIdx_eq_zipIdx_map] using hsilent
  | false =>
    rw [fadeOutLoop_eq]
    split
    · next hnil => exact .inr ⟨_, hle, ⟨rfl, fun i o frame ho => by simp [hnil] at ho⟩, rfl⟩
    rw [if_neg Bool.false_ne_true]
    split
    · next hnone => exact .inl ⟨rfl, rfl, by omega⟩
    · exact .inr ⟨_, hle, fallsFrom_mapIdx hle hfits, rfl⟩

/-- A fade-in keeps the rest of the channel. -/
theorem applyFadeIn_faded (pcm : List Frame) (hle : c.fadeInRemaining ≤ fadeInFrames) :
    List.Forall₂ FadedIn (applyFadeIn c pcm).1 pcm ∧ ∃ remaining ≤ fadeInFrames,
      (applyFadeIn c pcm).2 = { c with fadeInRemaining := remaining } := by
  have hsame : List.Forall₂ FadedIn pcm pcm := List.forall₂_same.2 fun _ _ => .inl rfl
  unfold applyFadeIn
  split
  · exact ⟨hsame, _, hle, rfl⟩
  split
  · exact ⟨hsame, _, hle, rfl⟩
  have hfaded := fadeInLoop_faded pcm _ hle
  exact ⟨hfaded.1, _, hfaded.2, rfl⟩

theorem mixBlock_faded {d : MixerChannel} {out : List Frame} (h : List.Forall₂ FadedIn out pcm)
    (hsame : d.fadeOutRemaining = c.fadeOutRemaining) :
    List.Forall₂ FadedIn (mixBlock d out) (mixBlock c pcm) := by
  unfold mixBlock
  rw [hsame]
  cases h with
  | nil => exact List.forall₂_same.2 fun _ _ => .inl rfl
  | cons hframe hrest => simpa using ⟨hframe, hrest⟩

/-- Silence fits, and so does what was faded in. -/
theorem fits_faded {out : List Frame} (h : List.Forall₂ FadedIn out (mixBlock c pcm))
    (hfits : ∀ frame ∈ pcm.zipIdx, FrameFits frame.1 (gain - frame.2)) (i : Nat) (frame : Frame)
    (hframe : out[i]? = some frame) : FrameFits frame (gain - i) := by
  obtain ⟨hout, rfl⟩ := List.getElem?_eq_some_iff.1 hframe
  have hin : i < (mixBlock c pcm).length := h.length_eq ▸ hout
  have hunder := (h.get hout hin).under
  suffices hsource : FrameFits (mixBlock c pcm)[i] (gain - i) from
    ⟨hunder.1.fits hsource.1, hunder.2.fits hsource.2⟩
  unfold mixBlock at hin ⊢
  split at hin
  · simp [FrameFits, InInt32, *]
  · next hsome =>
      simp only [if_neg hsome]
      exact hfits (pcm[i], i) (List.mk_mem_zipIdx_iff_getElem?.2 (List.getElem?_eq_getElem hin))

theorem under_trans {out block input : List Frame} (h : List.Forall₂ (Both Under) out block)
    (h' : List.Forall₂ (Both Under) block input) : List.Forall₂ (Both Under) out input := by
  refine List.forall₂_iff_get.2 ⟨h.length_eq.trans h'.length_eq, fun i hout hin => ?_⟩
  have hblock : i < block.length := h.length_eq ▸ hout
  exact ⟨(h.get hout hblock).1.trans (h'.get hblock hin).1,
    (h.get hout hblock).2.trans (h'.get hblock hin).2⟩

/-! ### Steps -/

variable {s s' : FadeRun} {act : MixerStep}

theorem FadeInv.received (h : FadeInv s) (pcm : List Frame)
    (hread : s.fade ≠ none → s.channel.active ∨ 0 < s.channel.available) :
    FadeInv { s with channel := received s.channel pcm } := by
  rcases h with ⟨hin, hout, hfade⟩
  unfold Hub.received channelShouldRead
  split
  · next hidle =>
    split
    · next hempty => exact ⟨Nat.zero_le _, Nat.le_refl _, fun _ _ hsome => by simp_all⟩
    split
    · next hpending =>
        exact ⟨hin, Nat.le_refl _, fun frames since hsome => by
          simp [(hfade _ _ hsome).pending] at hpending⟩
    · exact ⟨hin, hout, fun _ _ hsome => { hfade _ _ hsome with }⟩
  · dsimp only
    split
    all_goals exact ⟨hin, hout, fun _ _ hsome => { hfade _ _ hsome with }⟩

theorem Falling.applyFadeOut {frames since : Nat} (h : Falling c frames since) :
    Falling (applyFadeOut c pcm).2 frames (since + pcm.length) := by
  rcases h with ⟨hpos, hpending, htotal, hremaining, hmuted⟩
  unfold Hub.applyFadeOut
  split
  · next hnil => exact ⟨hpos, hpending, htotal, by simp [hnil, hremaining], by simp [hnil, hmuted]⟩
  split
  · next hover =>
      have hpast : frames ≤ since := by simpa [hmuted] using hover
      refine ⟨hpos, hpending, htotal, by dsimp only; omega, ?_⟩
      rw [hmuted, decide_eq_true hpast, decide_eq_true (Nat.le_add_right_of_le hpast)]
  · next hfalling =>
      have hbefore : since < frames := by simpa [hmuted] using hfalling
      rw [if_neg (by omega), fadeOutLoop_eq]
      refine ⟨hpos, hpending, htotal, by dsimp only; omega, ?_⟩
      rw [decide_eq_decide]
      dsimp only
      omega

theorem FadeInv.applyFadeOut (h : FadeInv s) : FadeInv
    { channel := (applyFadeOut s.channel pcm).2
      fade := s.fade.map fun fade => (fade.1, fade.2 + pcm.length) } := by
  refine ⟨?_, ?_, fun frames since hsome => ?_⟩
  · unfold Hub.applyFadeOut
    repeat' split
    all_goals exact h.fadeIn
  · unfold Hub.applyFadeOut
    rw [fadeOutLoop_eq]
    repeat' split
    all_goals first | exact h.fadeOut | exact Nat.le_trans (Nat.sub_le ..) h.fadeOut
  · obtain ⟨fade, hold, hnew⟩ := Option.map_eq_some_iff.1 hsome
    cases hnew
    exact (h.fade _ _ hold).applyFadeOut

theorem FadeInv.fadedIn (h : FadeInv s) (pcm : List Frame)
    (hread : s.fade ≠ none → s.channel.active ∨ 0 < s.channel.available) :
    List.Forall₂ FadedIn (fadedBlock s.channel pcm) (mixBlock (Hub.received s.channel pcm) pcm) ∧
      FadeInv { s with channel := (applyFadeIn (Hub.received s.channel pcm) pcm).2 } ∧
      (applyFadeIn (Hub.received s.channel pcm) pcm).2.fadeOutRemaining =
        (channelShouldRead s.channel).2.fadeOutRemaining := by
  have hreceived := h.received pcm hread
  obtain ⟨hfaded, remaining, hle, hsame⟩ := applyFadeIn_faded pcm hreceived.fadeIn
  unfold fadedBlock
  rw [hsame]
  exact ⟨mixBlock_faded hfaded rfl, { hreceived with
    fadeIn := hle, fade _ _ hsome := { hreceived.fade _ _ hsome with } }, rfl⟩

/-- A block is right when it is not disturbed. -/
theorem FadeInv.right (h : FadeInv s) (hundisturbed : Undisturbed s (.mix pcm)) :
    BlockRight s pcm := by
  obtain ⟨hfaded, hinv, hsame⟩ := h.fadedIn pcm hundisturbed.1
  have hfalls := applyFadeOut_falls hinv.fadeOut
    (hsame ▸ fits_faded hfaded hundisturbed.2 : ∀ i frame, _ → FrameFits frame (_ - i))
  refine ⟨hfaded, ?_, ?_, fun frames since hsome => ?_⟩
  · exact hfalls.imp And.left fun ⟨gain, hgain, hfall, _⟩ => ⟨gain, _, hgain, hfall⟩
  · refine under_trans ?_ (hfaded.imp fun _ _ => FadedIn.under)
    rcases hfalls with ⟨hsame, _⟩ | ⟨gain, hgain, hfall, _⟩
    · unfold mixedBlock
      rw [hsame]
      exact List.forall₂_same.2 fun _ _ => ⟨.refl _, .refl _⟩
    · exact hfall.under hgain
  · rcases hinv.fade _ _ hsome with ⟨hpos, _, htotal, hremaining, hmuted⟩
    rw [hmuted, hremaining, htotal] at hfalls
    rcases hfalls with ⟨_, hbefore, hover⟩ | ⟨gain, _, hfall, hgain⟩
    · rw [decide_eq_false_iff_not] at hbefore
      omega
    · rw [show frames - since = gain by grind]
      exact hfall

theorem FadeInv.step (h : FadeInv s) (hundisturbed : Undisturbed s act)
    (hstep : fadeStep s act = some s') : FadeInv s' := by
  obtain ⟨channel, hchannel, rfl⟩ := Option.map_eq_some_iff.1 hstep
  rcases h with ⟨hin, hout, hfade⟩
  cases act with
  | start audible =>
    cases hchannel
    refine ⟨?_, Nat.le_refl _, nofun⟩
    cases audible
    · exact Nat.zero_le _
    · exact Nat.le_refl _
  | stop =>
    cases hchannel
    exact ⟨Nat.zero_le _, Nat.le_refl _, nofun⟩
  | write frames =>
    cases hchannel
    exact ⟨hin, hout, fun _ _ hsome => { hfade _ _ hsome with }⟩
  | setAudible audible =>
    cases hchannel
    unfold setStreamAudible
    split
    · refine ⟨?_, hout, fun _ _ hsome => { hfade _ _ hsome with }⟩
      dsimp only
      split
      · exact Nat.le_refl _
      · exact hin
    · exact ⟨hin, hout, hfade⟩
  | finish =>
    cases hchannel
    refine ⟨?_, ?_, fun frames since hsome => ?_⟩
    on_goal 3 => cases hundisturbed.symm.trans hsome
    all_goals unfold finishStream
    all_goals repeat' split
    all_goals first | exact hin | exact Nat.le_refl _ | exact Nat.zero_le _
  | fadeOut durationMs =>
    cases hchannel
    unfold fadeOutStream
    dsimp only [FadeRun.fadeBehind]
    split
    · exact ⟨Nat.zero_le _, Nat.le_refl _, nofun⟩
    split
    · next hpositive hthere =>
        refine ⟨hin, Nat.le_refl _, fun frames since hsome => ?_⟩
        rw [hundisturbed (Int.not_le.1 hpositive) hthere] at hsome
        cases hsome
        have hpos : 0 < fadeOutFrames durationMs := Nat.le_max_left ..
        exact ⟨hpos, rfl, rfl, rfl, (decide_eq_false (Nat.not_le.2 hpos)).symm⟩
    · exact ⟨hin, hout, hfade⟩
  | mix pcm =>
    obtain ⟨_, hbehind⟩ := Option.ite_none_right_eq_some.1 hchannel
    cases hbehind
    exact (FadeInv.fadedIn ⟨hin, hout, hfade⟩ _ hundisturbed.1).2.1.applyFadeOut

/-- In a run that disturbs no fade, what is mixed has the sign of what was read and is no louder,
    falls to silence in the frames that were asked for, and no product leaves 32 bits. -/
theorem fades_right {acts : List MixerStep} (hrun : Lib.run fadeStep {} acts = some s)
    (heach : Lib.EachStep fadeStep Undisturbed {} acts) (hundisturbed : Undisturbed s (.mix pcm)) :
    BlockRight s pcm := by
  have hinv : FadeInv s := by
    refine Lib.invariant_of_run (fun _ _ _ => FadeInv.step) ?_ heach hrun
    exact ⟨Nat.zero_le _, Nat.le_refl _, nofun⟩
  exact hinv.right hundisturbed

instance (s : FadeRun) : (act : MixerStep) → Decidable (Undisturbed s act)
  | .finish => inferInstanceAs (Decidable (_ = _))
  | .fadeOut _ => inferInstanceAs (Decidable (_ → _ → _))
  | .mix _ => inferInstanceAs (Decidable ((_ → _) ∧ ∀ frame ∈ _, (_ ∧ _) ∧ (_ ∧ _)))
  | .start _ | .setAudible _ | .stop | .write _ => inferInstanceAs (Decidable True)

/-- An effect that was loaded, and is faded out behind its first frame. -/
def fadingOut : List MixerStep := [.start true, .write 8192, .mix [(1000, -1000)], .fadeOut 96]

theorem fades_right_fadingOut : ∃ s, Lib.run fadeStep {} fadingOut = some s ∧
    BlockRight s [(20000, -20000), (300, 0)] :=
  ⟨_, rfl, fades_right (rfl : Lib.run fadeStep {} fadingOut = _) (by decide) (by decide)⟩

/-- A stream that is finished in a fade-out is loud again. And a loud sample in a long fade-out
    changes its sign, here of a file that was loaded muted and has been read to its end. -/
theorem fades_wrong :
    (∃ s, Lib.run fadeStep {} (fadingOut ++ [.mix [(0, 0)], .finish]) = some s ∧
      ¬ BlockRight s [(32767, 0)]) ∧
    ∃ s, Lib.run fadeStep {} [.start false, .write 8192, .finish, .fadeOut 2500] = some s ∧
      ¬ BlockRight s [(32767, 0)] := by
  refine ⟨⟨_, rfl, fun h => ?_⟩, ⟨_, rfl, fun h => ?_⟩⟩
  · have hlouder := ((h.envelope 4233 1 rfl).2 0 _ _ rfl rfl).1.2
    revert hlouder
    decide
  · have hsign := ((h.under.get (i := 0) (by decide) (by decide)).1.1 (by decide)).1
    revert hsign
    decide

end SceneHub.Hub
