import PumpTrade.Chain.Token

/-!
# The accounts of the two exchanges

The programs, fixed accounts, seeds and instruction discriminators of `instruction/utils/pumpfun.rs`
and `instruction/utils/pumpswap.rs`.
-/

namespace PumpTrade

/-- The bytes of an ASCII text. -/
def ascii (text : String) : List UInt8 := text.toList.map fun c => UInt8.ofNat c.toNat

/-- Whom both programs pay their fees to, and the program that sets these. -/
def feeRecipient : Pubkey := ⟨0x4ac2f8d0dd5cbc97e3289c197cb5062a54f3d956b9ce6e5115f96567aa5cb3e6⟩
def mayhemFeeRecipient : Pubkey := ⟨0xe893141fb18e9f1574d810e178e19e30604e3175aa2e4a32dfc8600727d10709⟩
def feeProgram : Pubkey := ⟨0x0c35ffa9055a8e568da8f7bc075615274cf1c92ca41f40009c516aa414c27c70⟩

/-- The seed of the account that counts the volume of a user. -/
def userVolumeAccumulatorSeed : List UInt8 := ascii "user_volume_accumulator"

/-- Both programs take the same buy and sell discriminators. -/
def buyDiscriminator : List UInt8 := [102, 6, 61, 18, 1, 218, 235, 234]
def sellDiscriminator : List UInt8 := [51, 230, 133, 164, 1, 127, 131, 173]

namespace PumpFun

/-- The program and the accounts that every trade of it names. -/
def pumpfun : Pubkey := ⟨0x0156e0f693665acf44db1568bf175baa5189cb97f5d2ff3b655d2bb6fd6d18b0⟩
def globalAccount : Pubkey := ⟨0x3a865e69ee0f5480cabcf66357e4dc2f18d58d45c1ea7489fb3723d9793c72a6⟩
def eventAuthority : Pubkey := ⟨0xacf136eb01fc1c4e883d23c8b5844ab59a37f66add57c5e9ac3b53e059d35c64⟩
def globalVolumeAccumulator : Pubkey :=
  ⟨0xfa0911a54863412d631f4e078703296c035f0d1333a0d9c8838d73b710fe6e2d⟩
def feeConfig : Pubkey := ⟨0x6f9ab4a4f1958dc0a9c94c3fb72c07995843eda485e3a24f10c69399f819940f⟩

/-- The seeds of its derived accounts. -/
def bondingCurveSeed : List UInt8 := ascii "bonding-curve"
def bondingCurveV2Seed : List UInt8 := ascii "bonding-curve-v2"
def creatorVaultSeed : List UInt8 := ascii "creator-vault"

/-- The discriminator of a buy that spends an exact amount. -/
def buyExactSolInDiscriminator : List UInt8 := [56, 252, 116, 8, 158, 223, 205, 95]

end PumpFun

namespace PumpSwap

/-- The program and the accounts that every trade of it names. -/
def ammProgram : Pubkey := ⟨0x0c14defc825ec67694250818bb654065f4298d3156d571b4d4f8090c18e9a863⟩
def globalAccount : Pubkey := ⟨0x890ba644fe1f55aa19f11cd2d2ec14d3233b6e0a4beaeef72b69858e21e170d6⟩
def eventAuthority : Pubkey := ⟨0xe54a709528839f61c0b9b86079891c139216e47a71b62fb73bec72169458745e⟩
def globalVolumeAccumulator : Pubkey :=
  ⟨0xa3d7bb127e58adc12ca68f83437ec2e1c3f9820de93e58f9178a2918ddaaf7b4⟩
def feeConfig : Pubkey := ⟨0x41246ecc7d78fe81e41773a46965419937923a07644797df6f3eb514426010cb⟩
def defaultCoinCreatorVaultAuthority : Pubkey :=
  ⟨0x6d659043baa52a181b5844239e8d542d1fdedcd681ce7e71d07529dac96e26ad⟩

/-- The seed of the second account of a pool. -/
def poolV2Seed : List UInt8 := ascii "pool-v2"

/-- The discriminator of a buy that spends an exact amount. -/
def buyExactQuoteInDiscriminator : List UInt8 := [198, 46, 21, 82, 180, 217, 232, 112]

end PumpSwap

end PumpTrade
