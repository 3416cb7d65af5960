import Paymaster.Block

/-!
# Well-known keys

The programs that instructions here are for, and the keys that the ledger reserves for itself.  A
reserved key is never writable, whatever a message says.  Each key stands beside its text.
-/

namespace Paymaster.Program

/-- The token program.  Its text is `TokenkegQfeZyiNwAJbNbGKPFXCWuBvf9Ss623VQ5DA`. -/
def token : PublicKey :=
  .ofNat 32 0x06ddf6e1d765a193d9cbe146ceeb79ac1cb485ed5f5b37913a8cf5857eff00a9

/-- The second token program.  Its text is `TokenzQdBNbLqP5VEhdkAS6EPFLC1PHnBqCXEpPxuEb`. -/
def token2022 : PublicKey :=
  .ofNat 32 0x06ddf6e1ee758fde18425dbce46ccddab61afc4d83b90d27febdf928d8a18bfc

/-- The program that owns associated token accounts.  Its text is
`ATokenGPvbdGVxr1b2hvZbsiqW5xWH25efTNsLJA8knL`. -/
def associatedToken : PublicKey :=
  .ofNat 32 0x8c97258f4e2489f1bb3d1029148e0d830b5a1399daff1084048e7bd8dbe9f859

/-- The program that sets the limits of a transaction.  Its text is
`ComputeBudget111111111111111111111111111111`. -/
def computeBudget : PublicKey :=
  .ofNat 32 0x0306466fe5211732ffecadba72c39be7bc8ce5bbc5f7126b2c439b3a40000000

/-- The loader whose programs can be replaced.  Its text is
`BPFLoaderUpgradeab1e11111111111111111111111`. -/
def upgradeableLoader : PublicKey :=
  .ofNat 32 0x02a8f6914e88a1b0e210153ef763ae2b00c2b93d16c124d2c0537a1004800000

/-- The keys of the built-in programs and of the accounts that hold the state of the ledger. -/
def reserved : List PublicKey :=
  [
    -- `11111111111111111111111111111111`
    .ofNat 32 0x0000000000000000000000000000000000000000000000000000000000000000,
    -- `BPFLoader1111111111111111111111111111111111`
    .ofNat 32 0x02a8f6914e88a16bbd2395855f6404d9b4f456b7821bb0145749428c00000000,
    -- `BPFLoader2111111111111111111111111111111111`
    .ofNat 32 0x02a8f6914e88a16e395ae128948ffa695693376818dd47435221f3c600000000,
    -- `BPFLoaderUpgradeab1e11111111111111111111111`
    .ofNat 32 0x02a8f6914e88a1b0e210153ef763ae2b00c2b93d16c124d2c0537a1004800000,
    -- `Config1111111111111111111111111111111111111`
    .ofNat 32 0x03064aa3002f74dcc86e43310f0c052af8c5da27f6104019a323efa000000000,
    -- `Feature111111111111111111111111111111111111`
    .ofNat 32 0x03c0a0cdcb06d2daefae82d16fee7acf61ec737b23481b21946a767000000000,
    -- `NativeLoader1111111111111111111111111111111`
    .ofNat 32 0x058784bf148ba4282fb012574888a9f153a07dadf765c0455c9a970380000000,
    -- `Stake11111111111111111111111111111111111111`
    .ofNat 32 0x06a1d8179137542a983437bdfe2a7ab2557f535c8a78722b68a49dc000000000,
    -- `StakeConfig11111111111111111111111111111111`
    .ofNat 32 0x06a1d817a502050b680791e6ce6db88e1e5b7150f61fc6790a4eb4d100000000,
    -- `Vote111111111111111111111111111111111111111`
    .ofNat 32 0x0761481d357474bb7c4d7624ebd3bdb3d8355e73d11043fc0da3538000000000,
    -- `SysvarC1ock11111111111111111111111111111111`
    .ofNat 32 0x06a7d51718c774c928566398691d5eb68b5eb8a39b4b6d5c73555b2100000000,
    -- `SysvarEpochSchedu1e111111111111111111111111`
    .ofNat 32 0x06a7d51718dc3fee02d3e47f0100f8b054f7942e60591e3f508719a805000000,
    -- `SysvarFees111111111111111111111111111111111`
    .ofNat 32 0x06a7d51718e25a8d83503c251a7af07126fd7200df6fc4ed526a9c9000000000,
    -- `SysvarRecentB1ockHashes11111111111111111111`
    .ofNat 32 0x06a7d517192c568ee08a845f73d29788cf035c3145b21ab344d8062ea9400000,
    -- `SysvarRent111111111111111111111111111111111`
    .ofNat 32 0x06a7d517192c5c51218cc94c3d4af17f58daee089ba1fd44e3dbd98a00000000,
    -- `SysvarRewards111111111111111111111111111111`
    .ofNat 32 0x06a7d517192c6137cee092d9b6923ee1ccd61903fa82b8a16191578d80000000,
    -- `SysvarS1otHashes111111111111111111111111111`
    .ofNat 32 0x06a7d517192f0aafc6f265e3fb77cc7ada82c529d0be3b136e2d005520000000,
    -- `SysvarS1otHistory11111111111111111111111111`
    .ofNat 32 0x06a7d517192f0aafc875e2e184577c5069cfc84649e3eb92782f958d48000000,
    -- `SysvarStakeHistory1111111111111111111111111`
    .ofNat 32 0x06a7d517193584d0feed9bb3431d13206be544281b57b8566cc5375ff4000000,
    -- `Sysvar1nstructions1111111111111111111111111`
    .ofNat 32 0x06a7d517187bd16635dad40455fdc2c0c124c68f215675a5dbbacb5f08000000
  ]

end Paymaster.Program
