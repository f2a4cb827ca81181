import AmqpClient.Proofs.Recovery.Hearing

/-! What a recovering channel itself tells those who receive from consumers. It tells them something only when it
abandons their consumers, and then each of them once. -/
namespace AmqpClient

abbrev Posts := List (ReceiverId × ConsumerMessage)

def Link.posted (link : Link ω η κ) : Link (ω × Posts) η κ where
  connect world := ((link.connect world.1).1, (link.connect world.1).2, world.2)
  openChannel connection number world :=
    ((link.openChannel connection number world.1).1, (link.openChannel connection number world.1).2, world.2)
  attach delegate generation world := (link.attach delegate generation world.1, world.2)
  request delegate request world :=
    ((link.request delegate request world.1).1, (link.request delegate request world.1).2, world.2)
  dropChannel delegate world := (link.dropChannel delegate world.1, world.2)
  dropConnection connection world := (link.dropConnection connection world.1, world.2)
  tell receiver message world := (link.tell receiver message world.1, world.2 ++ [(receiver, message)])
  hear listener notice world := ((link.hear listener notice world.1).1, (link.hear listener notice world.1).2, world.2)
  raised world := ((link.raised world.1).1, (link.raised world.1).2, world.2)

abbrev PostedChannel (ω η κ : Type) := TapedChannel (ω × Posts) η κ

def RecoveringChannel.posts (self : PostedChannel ω η κ) : Posts := self.world.1.2

namespace PostedChannel

variable {ω η κ : Type} (link : Link ω η κ)

def postsOf (consumers : List RecordedConsumer) (message : ConsumerMessage) : Posts :=
  consumers.map fun consumer => (consumer.receiver, message)

theorem notifyPosts (view : PostedChannel ω η κ → Registry Listener) (notice : Notice) (self : PostedChannel ω η κ) :
    (self.notify link.posted.taped view notice).posts = self.posts := by
  refine List.foldlRecOn (motive := fun next : PostedChannel ω η κ => next.posts = self.posts) _ _ rfl ?_
  intro next same listener _
  exact same

theorem handlePosts (self : PostedChannel ω η κ) (raised : Generation × ChannelEvent) :
    (self.handle link.posted.taped raised).posts = self.posts := by
  obtain ⟨generation, event⟩ := raised
  unfold RecoveringChannel.handle
  split
  · have told : (self.announce link.posted.taped event).posts = self.posts := notifyPosts link _ _ self
    cases event with
    | shutdown signal =>
      obtain ⟨status, due, same⟩ :=
        RecoveringChannel.afterShutdownElse (self.announce link.posted.taped (.shutdown signal)) signal
      dsimp only
      rw [same]
      exact told
    | returned | confirm | flow => exact told
  · rfl

theorem attendPosts (self : PostedChannel ω η κ) : (self.attend link.posted.taped).posts = self.posts := by
  refine List.foldlRecOn (motive := fun next : PostedChannel ω η κ => next.posts = self.posts) _ _ rfl ?_
  intro next same raised _
  exact (handlePosts link next raised).trans same

theorem actPosts (self : PostedChannel ω η κ) (step : (ω × Posts) × List (Asked η) → (ω × Posts) × List (Asked η)) :
    (self.act link.posted.taped step).posts = (step self.world).1.2 := attendPosts link _

theorem askPosts (self : PostedChannel ω η κ) (request : Request) :
    (self.ask link.posted.taped request).2.posts = self.posts := attendPosts link _

theorem replacePosts (self : PostedChannel ω η κ) (connection : κ) (delegate : η) :
    (self.replaceDelegate link.posted.taped connection delegate).posts = self.posts :=
  (actPosts link _ _).trans (actPosts link _ _)

theorem reopenPosts (number : Option UInt16) (world : (ω × Posts) × List (Asked η)) :
    (RecoveringChannel.reopen link.posted.taped number world).2.1.2 = world.1.2 := by
  simp only [RecoveringChannel.reopen, Link.taped, Link.posted]
  cases (link.connect world.1.1).1 with
  | error e => rfl
  | ok connection =>
    dsimp only
    cases (link.openChannel connection number (link.connect world.1.1).2).1 <;> rfl

theorem reportPosts (self : PostedChannel ω η κ) (notice : Notice) :
    (self.report link.posted.taped notice).posts = self.posts := notifyPosts link _ _ self

theorem abandonPosts (self : PostedChannel ω η κ) (message : ConsumerMessage) :
    (self.abandonConsumers link.posted.taped message).posts
      = self.posts ++ postsOf self.record.abandon.1 message := by
  have told (consumers : List RecordedConsumer) (start : PostedChannel ω η κ) :
      (consumers.foldl (fun self consumer =>
          self.act link.posted.taped (link.posted.taped.tell consumer.receiver message)) start).posts
        = start.posts ++ postsOf consumers message := by
    induction consumers generalizing start with
    | nil => exact (List.append_nil _).symm
    | cons consumer rest ih =>
      rw [List.foldl_cons, ih, actPosts]
      exact List.append_assoc ..
  exact told _ _

theorem reattachedPosts {self : PostedChannel ω η κ} {answer : Except Error (κ × UInt16 × η)}
    {world : (ω × Posts) × List (Asked η)} (opened : self.reopening link.posted.taped = (answer, world))
    (connection : κ) (delegate : η) :
    (self.reattached link.posted.taped world connection delegate).posts = self.posts := by
  have quiet := reopenPosts link (some self.channel)
    (self.report link.posted.taped (.recoveryStarted self.channel)).world
  have same : world.1.2 = (self.report link.posted.taped (.recoveryStarted self.channel)).posts :=
    congrArg (fun outcome => outcome.2.1.2) opened.symm |>.trans quiet
  exact (replacePosts link _ connection delegate).trans ((attendPosts link _).trans (same.trans (reportPosts link ..)))

theorem modesPosts (self : PostedChannel ω η κ) :
    (Replay.requests (RecoveringChannel.ask link.posted.taped) self.record.modeRequests self).2.posts = self.posts :=
  @Replay.requestsKeep _ _ (fun next : PostedChannel ω η κ => next.posts = self.posts) self.record.modeRequests
    (fun next request _ same => (askPosts link next request).trans same) self rfl

theorem restorePosts (self : PostedChannel ω η κ) (enabled : self.options.topology = true) :
    (self.restore link.posted.taped).2.posts = self.posts := by
  have step (next : PostedChannel ω η κ) (request : Request) (same : next.posts = self.posts) :
      (next.ask link.posted.taped request).2.posts = self.posts := (askPosts link next request).trans same
  have prepared := modesPosts link self
  obtain ⟨_, preparing⟩ := TapedChannel.requestsPlayed link.posted self.record.modesPlain self
  unfold RecoveringChannel.restore
  generalize Replay.requests (RecoveringChannel.ask link.posted.taped) self.record.modeRequests self = answer
    at prepared preparing ⊢
  obtain ⟨e | ⟨⟩, middle⟩ := answer
  · exact prepared
  · dsimp only
    rw [if_pos (preparing.grown.options ▸ enabled)]
    exact Replay.topologyKeeps step middle.record middle prepared

end PostedChannel

end AmqpClient
